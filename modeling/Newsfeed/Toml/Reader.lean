import Newsfeed.Toml.Scalar

/-!
# Reading TOML text

A text is read line by line: headers open tables, and all other lines add values to the table that
is open. Within braces, line breaks may also stand around an equals sign. Arrays and tables in
braces may be nested eighty levels deep, and a key has at most eighty parts.

* `value` : a value of at most so many levels.
* `line` : one line of a text.
* `parse?` : the fields of a whole text.
-/

namespace Newsfeed.Toml

open Reader

/-- A key without dots. -/
def simpleKey : Reader String := fun s =>
  match s with
  | '"' :: _ | '\'' :: _ => shortQuoted s
  | _ =>
    let k := s.takeWhile fun c => c.isAlphanum || c = '_' || c = '-'
    if k.isEmpty then none else some (String.ofList k, s.drop k.length)

/-- A further part of a dotted key, in front of the parts before it. -/
def keyStep (parts : List String) : Reader (Option (List String)) := do
  gap
  match ← peek with
  | some '.' => do
    char '.'
    gap
    return some ((← simpleKey) :: parts)
  | _ => return none

/-- How deep keys and values may be nested. -/
def maxNesting : Nat := 80

/-- A key: its last part, and the parts before it. -/
def key : Reader (List String × String) := do
  let first ← simpleKey
  let parts ← untilDone keyStep [first]
  check (parts.length ≤ maxNesting)
  match parts with
  | last :: path => return (path.reverse, last)
  | [] => fail

/-- A key and its value; `space` is what may stand around the equals sign. -/
def assignment (space : Reader Unit) (value : Reader Toml) :
    Reader ((List String × String) × Toml) := do
  let k ← key
  space
  char '='
  space
  return (k, ← value)

/-- What has been read of a list in brackets or braces, and whether another entry may follow. -/
structure Listing (α : Type) where
  entries : α
  mayGoOn : Bool := true
  closed : Bool := false

/-- The end of a list, or another entry and perhaps a comma. -/
def listStep {α : Type} (close : Char) (entry : α → Reader α) (l : Listing α) :
    Reader (Option (Listing α)) := do
  if l.closed then return none
  trivia
  if (← peek) = some close then
    char close
    return some { l with closed := true }
  check l.mayGoOn
  let entries ← entry l.entries
  trivia
  if (← peek) = some ',' then
    char ','
    return some { entries }
  return some { entries, mayGoOn := false }

/-- The entries of a list up to its closing character. -/
def listing {α : Type} (close : Char) (entry : α → Reader α) (none_ : α) : Reader α := do
  return (← untilDone (listStep close entry) { entries := none_ }).entries

/-- An array after its opening bracket. -/
def arrayBody (value : Reader Toml) : Reader Toml := do
  let xs ← listing ']' (fun xs => do return (← value) :: xs) []
  return .array xs.reverse

/-- Adds an assignment to the fields of a table in braces. -/
def fieldEntry (value : Reader Toml) (fs : Fields) : Reader Fields := do
  let ((path, k), v) ← assignment trivia value
  match fs.put? path k v with
  | some fs => return fs
  | none => fail

/-- A table after its opening brace. -/
def tableBody (value : Reader Toml) : Reader Toml := do
  return .table .braces (← listing '\x7d' (fieldEntry value) [])

/-- A value in which arrays and tables are nested at most `room` levels deep. -/
def value : (room : Nat) → Reader Toml
  | 0 => flat
  | room + 1 => do
    match ← peek with
    | some '[' => do
      char '['
      arrayBody (value room)
    | some '\x7b' => do
      char '\x7b'
      tableBody (value room)
    | _ => flat
where
  /-- A string or a word. -/
  flat : Reader Toml := do
    match ← peek with
    | some '"' | some '\'' => return .string (← quoted)
    | _ => scalar

/-- The fields read so far, and the path of the table that is open. -/
structure Open where
  root : Fields := []
  header : List String := []

/-- Goes on with the new fields, if there are any. -/
def orFail (r : Option Fields) (header : List String) : Reader Open :=
  match r with
  | some root => return { root, header }
  | none => fail

/-- A header after its first bracket. -/
def headerLine (o : Open) : Reader Open := do
  match ← peek with
  | some '[' => do
    char '['
    gap
    let (path, k) ← key
    gap
    char ']'
    char ']'
    lineEnd
    orFail (o.root.openElement? path k) (path ++ [k])
  | _ => do
    gap
    let (path, k) ← key
    gap
    char ']'
    lineEnd
    orFail (o.root.openTable? path k) (path ++ [k])

/-- One line of a text; done at its end. -/
def line (o : Open) : Reader (Option Open) := do
  gap
  match ← peek with
  | none => return none
  | some '[' => do
    char '['
    return some (← headerLine o)
  | some c =>
    if c = '#' || c = '\n' || c = '\r' then
      lineEnd
      return some o
    let ((path, k), v) ← assignment gap (value maxNesting)
    lineEnd
    return some (← orFail (o.root.putUnder? o.header path k v) o.header)

/-- The fields of a text. A byte order mark in front does not count. -/
def parse? (s : String) : Option Fields :=
  let text :=
    match s.toList with
    | '\ufeff' :: rest => rest
    | cs => cs
  (Reader.all (untilDone line {}) text).map (·.root)

end Newsfeed.Toml
