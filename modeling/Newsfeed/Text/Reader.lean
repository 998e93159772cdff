/-!
# Readers

A reader takes a text from its front: it either fails or gives a value and the text that it left.
Readers are total functions on lists of characters; none of them loops on its own, since every
repetition is a `takeWhile` on the text.

* `Reader.digits` : between a least and a most number of ASCII digits, as many as there are.
* `Reader.all` : a value only if nothing of the text is left.
-/

namespace Newsfeed

/-- A computation that consumes the front of a text and may fail. -/
abbrev Reader := StateT (List Char) Option

namespace Reader

/-- Runs a reader on a whole text; anything left over is a failure. -/
def all {α : Type} (r : Reader α) (s : List Char) : Option α :=
  match r s with
  | some (a, []) => some a
  | _ => none

/-- The next character, if it passes the test. -/
def satisfying (test : Char → Bool) : Reader Char := fun s =>
  match s with
  | c :: rest => if test c then some (c, rest) else none
  | [] => none

/-- One given character. -/
def char (c : Char) : Reader Unit := fun s =>
  match s with
  | d :: rest => if d = c then some ((), rest) else none
  | [] => none

/-- One of several characters. -/
def oneOf (cs : List Char) : Reader Char := satisfying cs.contains

/-- Skips characters that pass the test. -/
def skip (test : Char → Bool) : Reader Unit := fun s => some ((), s.dropWhile test)

/-- The next character without taking it. -/
def peek : Reader (Option Char) := fun s => some (s.head?, s)

/-- Fails always. -/
def fail {α : Type} : Reader α := fun _ => none

/-- Goes on only if the condition holds. -/
def check (b : Bool) : Reader Unit := if b then pure () else fail

/-- The first reader, or the second one if the first fails; the failed one takes nothing. -/
def orElse {α : Type} (a b : Reader α) : Reader α := fun s =>
  match a s with
  | some r => some r
  | none => b s

/-- The value of a text of ASCII digits. -/
def numeral (ds : List Char) : Nat :=
  ds.foldl (fun n d => 10 * n + (d.toNat - '0'.toNat)) 0

/-- The longest run of ASCII digits, but no more than `most`; fails if there are fewer than
`least`. -/
def digitRun (least most : Nat) : Reader (List Char) := fun s =>
  let ds := (s.take most).takeWhile Char.isDigit
  if ds.length < least then none else some (ds, s.drop ds.length)

/-- A number of `least` to `most` ASCII digits. -/
def digits (least most : Nat) : Reader Nat := numeral <$> digitRun least most

/-- A number of any positive count of ASCII digits. -/
def anyDigits : Reader Nat := fun s =>
  let ds := s.takeWhile Char.isDigit
  if ds.isEmpty then none else some (numeral ds, s.drop ds.length)

end Reader

end Newsfeed
