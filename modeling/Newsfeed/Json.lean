import Newsfeed.Score

/-!
# JSON values

Values of RFC 8259. A literal need not denote anything: a string may leave a surrogate without its
partner, and a number may lie beyond every double. Such literals are kept as values without a
denotation, so that they matter only to those who look at them.

* `Json.depth` : how deep arrays and objects are nested.
* `Json.denotes` : whether every literal denotes a text or a number.
* `Json.record?` : the fields of an object or of an array that lists them in order.
-/

namespace Newsfeed

/-- A JSON value. Objects keep their fields in order, repeated keys included. -/
inductive Json where
  | null
  | bool (b : Bool)
  /-- A number written without fraction and exponent that fits 64 bits. -/
  | int (n : Int)
  /-- Any other number; absent if it is beyond every double. -/
  | real (x : Option Score)
  /-- A string; absent if it leaves a surrogate unpaired. -/
  | str (s : Option String)
  | arr (elements : List Json)
  | obj (fields : List (Option String × Json))
deriving Repr, Inhabited

namespace Json

/-- The string of a text. -/
def text (s : String) : Json := .str (some s)

/-- An object whose keys are texts. -/
def object (fields : List (String × Json)) : Json := .obj (fields.map fun f => (some f.1, f.2))

mutual

/-- How deep arrays and objects are nested. -/
def depth : Json → Nat
  | .arr xs => depthOfElements xs + 1
  | .obj fs => depthOfFields fs + 1
  | _ => 0

/-- The depth of the deepest element. -/
def depthOfElements : List Json → Nat
  | [] => 0
  | x :: xs => max x.depth (depthOfElements xs)

/-- The depth of the deepest field. -/
def depthOfFields : List (Option String × Json) → Nat
  | [] => 0
  | (_, x) :: fs => max x.depth (depthOfFields fs)

end

mutual

/-- Whether every literal of a value denotes a text or a number. -/
def denotes : Json → Bool
  | .real x => x.isSome
  | .str s => s.isSome
  | .arr xs => elementsDenote xs
  | .obj fs => fieldsDenote fs
  | _ => true

/-- Whether every literal of some elements does. -/
def elementsDenote : List Json → Bool
  | [] => true
  | x :: xs => x.denotes && elementsDenote xs

/-- Whether every literal and every key of some fields does. -/
def fieldsDenote : List (Option String × Json) → Bool
  | [] => true
  | (k, x) :: fs => k.isSome && x.denotes && fieldsDenote fs

end

/-! ## Reading one value -/

/-- A text. -/
def text? : Json → Option String
  | .str s => s
  | _ => none

/-- A truth value. -/
def bool? : Json → Option Bool
  | .bool b => some b
  | _ => none

/-- An unsigned integer of 64 bits. -/
def size? : Json → Option Nat
  | .int n => if 0 ≤ n ∧ n < 0x10000000000000000 then some n.toNat else none
  | _ => none

/-- A signed integer of 64 bits. -/
def signed? : Json → Option Int
  | .int n => if -0x8000000000000000 ≤ n ∧ n < 0x8000000000000000 then some n else none
  | _ => none

/-- A number. -/
def score? : Json → Option Score
  | .int n => some (Score.ofInt n)
  | .real x => x
  | _ => none

/-- The elements of an array, each of them read. -/
def list? {α : Type} (read? : Json → Option α) : Json → Option (List α)
  | .arr xs => xs.mapM read?
  | _ => none

/-- A value that may be null. -/
def optional? {α : Type} (read? : Json → Option α) : Json → Option (Option α)
  | .null => some none
  | j => (read? j).map some

/-! ## Reading fields -/

/-- The values of all fields with a key. -/
def valuesOf (key : String) (fields : List (Option String × Json)) : List Json :=
  (fields.filter fun f => f.1 == some key).map (·.2)

/-- The fields of an object that have one of the given keys. A key may not be repeated, and every
key has to be a text; other fields are left out. -/
def knownFields? (keys : List String) (fields : List (Option String × Json)) :
    Option (List (String × Json)) :=
  if fields.all (·.1.isSome) && keys.all (fun k => (valuesOf k fields).length ≤ 1) then
    some (keys.filterMap fun k => ((valuesOf k fields).head?).map fun j => (k, j))
  else none

/-- The fields of a record: those of an object, or the elements of an array in the order of the
keys, of which the last ones may be missing. -/
def record? (keys : List String) : Json → Option (List (String × Json))
  | .obj fields => knownFields? keys fields
  | .arr xs => if xs.length ≤ keys.length then some (keys.zip xs) else none
  | _ => none

/-- The value of a field that has to be there. -/
def required? {α : Type} (read? : Json → Option α) (key : String)
    (fields : List (String × Json)) : Option α :=
  (fields.lookup key).bind read?

/-- The value of a field, or a default if it is missing. -/
def field? {α : Type} (read? : Json → Option α) (default : α) (key : String)
    (fields : List (String × Json)) : Option α :=
  match fields.lookup key with
  | some j => read? j
  | none => some default

/-- The values that are there, under their keys: optional fields are left out when absent. -/
def present {α : Type} (key : String) (write : α → Json) : Option α → List (String × Json)
  | some a => [(key, write a)]
  | none => []

end Json

end Newsfeed
