/-!
# Character tables

Properties of characters are kept as compact text and looked up by binary search. A table is a
list of keys in growing order with a value for each. There are two kinds of text for it.

* `Table.ofRuns` : words `length:value`, one for each run of code points from zero on.
* `Table.ofEntries` : words `key=value` in the order of their keys.
* `Table.floor?` : the value of the run that a key lies in.
* `Table.find?` : the value of exactly that key.
-/

namespace Newsfeed.Unicode

/-- Keys in growing order and a value for each of them. -/
structure Table (α : Type) where
  keys : Array Nat
  values : Array α

/-- The words of a text, parted by blanks and line breaks. -/
def words (s : List Char) : List (List Char) :=
  let step (c : Char) (acc : List Char × List (List Char)) : List Char × List (List Char) :=
    if c.isWhitespace then ([], if acc.1.isEmpty then acc.2 else acc.1 :: acc.2)
    else (c :: acc.1, acc.2)
  let r := s.foldr step ([], [])
  if r.1.isEmpty then r.2 else r.1 :: r.2

/-- The value of a hexadecimal digit in lower case; other characters count as zero. -/
def hexDigit (c : Char) : Nat :=
  if c.isDigit then c.toNat - '0'.toNat
  else if 'a' ≤ c ∧ c ≤ 'f' then c.toNat - 'a'.toNat + 10
  else 0

/-- The value of a hexadecimal number. -/
def hexNumber (s : List Char) : Nat := s.foldl (fun n c => 16 * n + hexDigit c) 0

/-- A text parted at every occurrence of a character. -/
def parts (sep : Char) (s : List Char) : List (List Char) :=
  let step (c : Char) (acc : List Char × List (List Char)) : List Char × List (List Char) :=
    if c = sep then ([], acc.1 :: acc.2) else (c :: acc.1, acc.2)
  let r := s.foldr step ([], [])
  r.1 :: r.2

/-- The characters of hexadecimal code points joined by points. -/
def hexChars (s : List Char) : List Char := (parts '.' s).map fun p => Char.ofNat (hexNumber p)

namespace Table

/-- The position of the last key that is at most `key`, among those from `lo` up to but not
including `hi`. The key at `lo` is taken to be small enough. -/
def search (keys : Array Nat) (key lo hi : Nat) : Nat :=
  if hi - lo ≤ 1 then lo
  else
    let mid := (lo + hi) / 2
    if keys.getD mid 0 ≤ key then search keys key mid hi else search keys key lo mid
termination_by hi - lo

/-- The position of the last key that is at most `key`. -/
def position (keys : Array Nat) (key : Nat) : Nat := search keys key 0 keys.size

variable {α : Type}

/-- The value at the last key that is at most `key`. -/
def floor? (t : Table α) (key : Nat) : Option α := t.values[position t.keys key]?

/-- The value at `key` itself. -/
def find? (t : Table α) (key : Nat) : Option α :=
  let i := position t.keys key
  if t.keys[i]? = some key then t.values[i]? else none

/-- Reads a table of runs: each word gives the length of a run and, after a colon, its value. -/
def ofRuns (value : List Char → α) (text : String) : Table α :=
  let step (acc : Nat × Table α) (word : List Char) : Nat × Table α :=
    let length := hexNumber (word.takeWhile (· ≠ ':'))
    let tag := (word.dropWhile (· ≠ ':')).drop 1
    (acc.1 + length, ⟨acc.2.keys.push acc.1, acc.2.values.push (value tag)⟩)
  ((words text.toList).foldl step (0, ⟨#[], #[]⟩)).2

/-- Reads a table of single keys: each word gives a key and, after an equals sign, its value. -/
def ofEntries (key : List Char → Nat) (value : List Char → α) (text : String) : Table α :=
  let step (t : Table α) (word : List Char) : Table α :=
    let k := key (word.takeWhile (· ≠ '='))
    let v := value ((word.dropWhile (· ≠ '=')).drop 1)
    ⟨t.keys.push k, t.values.push v⟩
  (words text.toList).foldl step ⟨#[], #[]⟩

end Table

end Newsfeed.Unicode
