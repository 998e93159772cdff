import Newsfeed.Json

/-!
# TOML values

A settings text is a tree of tables. While it is read, each table remembers how it came about,
since that decides what may still be added to it: a table under a header of its own is complete, one
that only lies on the way to another may get a header later, one that dotted keys have made may get
further dotted keys, and one in braces is closed.

* `Toml.Fields.extend?` : descends to a table, making those that are missing.
* `Toml.Fields.put?` : adds a value under a dotted key.
* `Toml.Fields.openTable?`, `Toml.Fields.openElement?` : what the two kinds of headers do.
* `Toml.toJson` : a value as a JSON value, which settings are read from.
-/

namespace Newsfeed

/-- How a table came about. -/
inductive TableOrigin where
  /-- By a header. -/
  | header
  /-- On the way to the table of a header. -/
  | passed
  /-- By a dotted key. -/
  | dotted
  /-- In braces. -/
  | braces
deriving DecidableEq, Repr

/-- A value of a settings text. -/
inductive Toml where
  | string (s : String)
  | integer (n : Int)
  | float (x : Score)
  | boolean (b : Bool)
  /-- A date, a time of day or both; which one it is does not matter to any setting. -/
  | datetime
  /-- An array in brackets. -/
  | array (elements : List Toml)
  /-- The tables of headers in double brackets, the latest one first. -/
  | tables (elements : List Toml)
  | table (origin : TableOrigin) (fields : List (String × Toml))
deriving Repr, Inhabited

namespace Toml

/-- Whether an integer is one of JSON's: it has at most 64 bits, with or without a sign. -/
def isShort (n : Int) : Bool := -0x8000000000000000 ≤ n && n < 0x10000000000000000

mutual

/-- A value as a JSON value. Dates and longer integers become objects, which no setting accepts. -/
def toJson : Toml → Json
  | string s => .text s
  | integer n => if isShort n then .int n else .obj []
  | float x => .real (some x)
  | boolean b => .bool b
  | datetime => .obj []
  | array xs => .arr (elementsToJson xs)
  | tables xs => .arr (elementsToJson xs)
  | table _ fs => .obj (fieldsToJson fs)

/-- Elements as JSON values. -/
def elementsToJson : List Toml → List Json
  | [] => []
  | x :: xs => x.toJson :: elementsToJson xs

/-- Fields as JSON fields. -/
def fieldsToJson : List (String × Toml) → List (Option String × Json)
  | [] => []
  | (k, x) :: fs => (some k, x.toJson) :: fieldsToJson fs

end

/-- The fields of a table. -/
abbrev Fields := List (String × Toml)

namespace Fields

/-- Replaces the value of a key that is there, or adds it at the end. -/
def set (key : String) (v : Toml) : Fields → Fields
  | [] => [(key, v)]
  | f :: rest => if f.1 = key then (key, v) :: rest else f :: set key v rest

/-- Descends along a path and changes the table at its end. Tables that are missing are made, with
the origin given. Dotted keys may not pass a table that has a header of its own; nothing may pass a
table in braces. Of the tables of double brackets the latest one is passed. -/
def extend? (made : TableOrigin) (change : TableOrigin → Fields → Option (TableOrigin × Fields)) :
    List String → TableOrigin → Fields → Option (TableOrigin × Fields)
  | [], origin, fs => change origin fs
  | k :: path, origin, fs => do
    let child ←
      match fs.lookup k with
      | none => do
        let (o, inner) ← extend? made change path made []
        pure (table o inner)
      | some (.table o inner) => do
        guard (o ≠ .braces ∧ (made = .dotted → o ≠ .header))
        let (o, inner) ← extend? made change path o inner
        pure (table o inner)
      | some (.tables (.table o inner :: earlier)) => do
        let (o, inner) ← extend? made change path o inner
        pure (tables (table o inner :: earlier))
      | some _ => none
    return (origin, fs.set k child)

/-- Adds a value under a key that is not there yet. -/
def add? (key : String) (v : Toml) (fs : Fields) : Option Fields :=
  if (fs.lookup key).isSome then none else some (fs ++ [(key, v)])

/-- Adds a value under a dotted key. All tables on the way have to be made by dotted keys, the last
one at the latest. -/
def put? (path : List String) (key : String) (v : Toml) (fs : Fields) : Option Fields := do
  let change (origin : TableOrigin) (inner : Fields) : Option (TableOrigin × Fields) := do
    guard (path = [] ∨ origin = .dotted)
    return (origin, ← inner.add? key v)
  let (_, fs) ← extend? .dotted change path .header fs
  return fs

/-- Opens the table of a header. The table may have been passed before, but not more. -/
def openTable? (path : List String) (key : String) (fs : Fields) : Option Fields := do
  let change (origin : TableOrigin) (inner : Fields) : Option (TableOrigin × Fields) :=
    match inner.lookup key with
    | none => some (origin, inner ++ [(key, table .header [])])
    | some (.table .passed fields) => some (origin, inner.set key (table .header fields))
    | some _ => none
  let (_, fs) ← extend? .passed change path .header fs
  return fs

/-- Opens another table of a header in double brackets. -/
def openElement? (path : List String) (key : String) (fs : Fields) : Option Fields := do
  let change (origin : TableOrigin) (inner : Fields) : Option (TableOrigin × Fields) :=
    match inner.lookup key with
    | none => some (origin, inner ++ [(key, tables [table .header []])])
    | some (.tables ts) => some (origin, inner.set key (tables (table .header [] :: ts)))
    | some _ => none
  let (_, fs) ← extend? .passed change path .header fs
  return fs

/-- Adds a value under a dotted key in the table that a header has opened. -/
def putUnder? (header path : List String) (key : String) (v : Toml) (fs : Fields) :
    Option Fields := do
  let change (origin : TableOrigin) (inner : Fields) : Option (TableOrigin × Fields) := do
    return (origin, ← inner.put? path key v)
  let (_, fs) ← extend? .passed change header .header fs
  return fs

end Fields

end Toml

end Newsfeed
