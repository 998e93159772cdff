import Newsfeed.Time.Calendar
import Newsfeed.Toml
import Newsfeed.Toml.Text

/-!
# Numbers, truth values and dates of TOML

* `integer?` : whole numbers of 128 bits in four bases.
* `float?` : decimal numbers, infinities and NaN.
* `isDatetime` : whether a word is a date, a time of day or both.
* `scalar` : the value of the word that a text begins with.
-/

namespace Newsfeed.Toml

/-! ## Numbers -/

/-- Digits without the underscores between them; every underscore has to stand between two
digits. -/
def digits? (isDigit : Char → Bool) (s : List Char) : Option (List Char) :=
  let ds := s.filter (· ≠ '_')
  let edge (c : Option Char) : Bool := c.any isDigit
  let doubled := (s.zip s.tail).any fun p => p.1 = '_' && p.2 = '_'
  if ds.all isDigit && edge s.head? && edge s.getLast? && !doubled then some ds else none

/-- A sign and what follows it; no sign counts as plus. -/
def cutSign (s : List Char) : Bool × List Char :=
  match s with
  | '-' :: rest => (true, rest)
  | '+' :: rest => (false, rest)
  | _ => (false, s)

/-- Decimal digits that do not begin with a needless zero. -/
def wholePart? (s : List Char) : Option (List Char) := do
  let ds ← digits? Char.isDigit s
  guard (ds.head? = some '0' → ds.length = 1)
  return ds

/-- The value of digits in a base of at most sixteen. -/
def valueInBase (base : Nat) (ds : List Char) : Nat :=
  ds.foldl (fun n d => base * n + (hexValue? d).getD 0) 0

/-- A number in base 16, 8 or 2 after its mark, or a decimal number with a sign. It has at most 128
bits, with or without a sign. -/
def integer? (s : List Char) : Option Int := do
  let n : Int ←
    match s with
    | '0' :: 'x' :: ds => (digits? (fun c => (hexValue? c).isSome) ds).map (valueInBase 16 ·)
    | '0' :: 'o' :: ds => (digits? (fun c => '0' ≤ c && c ≤ '7') ds).map (valueInBase 8 ·)
    | '0' :: 'b' :: ds => (digits? (fun c => c = '0' || c = '1') ds).map (valueInBase 2 ·)
    | _ =>
      let (negative, s) := cutSign s
      (wholePart? s).map fun ds =>
        if negative then -(valueInBase 10 ds : Int) else valueInBase 10 ds
  guard (-0x80000000000000000000000000000000 ≤ n ∧ n < 0x100000000000000000000000000000000)
  return n

/-- A number with a fraction, an exponent or both; `none` if it is beyond every double. -/
def decimal? (negative : Bool) (s : List Char) : Option Score := do
  let isMark (c : Char) : Bool := c = 'e' || c = 'E'
  let mantissa := s.takeWhile (!isMark ·)
  let power := (s.dropWhile (!isMark ·)).drop 1
  let whole ← wholePart? (mantissa.takeWhile (· ≠ '.'))
  let frac ←
    match mantissa.dropWhile (· ≠ '.') with
    | '.' :: ds => digits? Char.isDigit ds
    | _ => some []
  let exponent : Int ←
    if s.any isMark then
      let (negative, ds) := cutSign power
      (digits? Char.isDigit ds).map fun ds =>
        if negative then -(valueInBase 10 ds : Int) else valueInBase 10 ds
    else some 0
  Score.ofDecimal? negative (valueInBase 10 (whole ++ frac)) (exponent - frac.length)

/-- A decimal number, an infinity or NaN, with a sign. -/
def float? (s : List Char) : Option Score :=
  let (negative, s) := cutSign s
  let signed (x : Score) : Score := if negative then x.negate else x
  if s = "inf".toList then some (signed ⟨0x7ff0000000000000⟩)
  else if s = "nan".toList then some (signed ⟨0x7ff8000000000000⟩)
  else decimal? negative s

/-! ## Dates -/

/-- A date in figures of fixed width. -/
def date? : List Char → Option (List Char)
  | a :: b :: c :: d :: '-' :: e :: f :: '-' :: g :: h :: rest => do
    guard ([a, b, c, d, e, f, g, h].all Char.isDigit)
    guard (Date.isValid
      ⟨valueInBase 10 [a, b, c, d], valueInBase 10 [e, f], valueInBase 10 [g, h]⟩)
    return rest
  | _ => none

/-- Two figures below a bound. -/
def pair? (bound : Nat) : List Char → Option (List Char)
  | a :: b :: rest =>
    if a.isDigit && b.isDigit && valueInBase 10 [a, b] < bound then some rest else none
  | _ => none

/-- Seconds with or without a fraction, if there are any. -/
def seconds? : List Char → Option (List Char)
  | ':' :: s => do
    match ← pair? 61 s with
    | '.' :: s =>
      let ds := s.takeWhile Char.isDigit
      if ds.isEmpty then none else some (s.drop ds.length)
    | s => return s
  | s => some s

/-- A time of day. -/
def time? (s : List Char) : Option (List Char) := do
  match ← pair? 24 s with
  | ':' :: s => seconds? (← pair? 60 s)
  | _ => none

/-- Whether a text is an offset from UTC, or nothing. -/
def isOffset : List Char → Bool
  | [] | ['Z'] | ['z'] => true
  | '+' :: s | '-' :: s =>
    match pair? 24 s with
    | some (':' :: s) => pair? 60 s == some []
    | _ => false
  | _ => false

/-- Whether a word is a date, a time of day, or both with or without an offset. -/
def isDatetime (s : List Char) : Bool :=
  match date? s with
  | some [] => true
  | some (c :: rest) =>
    (c = 'T' || c = 't' || c = ' ') && (time? rest).any isOffset
  | none => time? s == some []

/-! ## Words -/

/-- Whether a character belongs to a word. -/
def isWordChar (c : Char) : Bool :=
  c.isAlphanum || c = '_' || c = '+' || c = '-' || c = '.' || c = ':'

/-- Whether a space here stands between a date and a time of day. -/
def joinsTime (word rest : List Char) : Bool :=
  match rest with
  | ' ' :: d :: _ => date? word == some [] && d.isDigit
  | _ => false

/-- The word that a text begins with; a date and a time of day after one space are one word. -/
def word : Reader (List Char) := fun s =>
  let w := s.takeWhile isWordChar
  let rest := s.drop w.length
  if joinsTime w rest then
    let clock := (rest.drop 1).takeWhile isWordChar
    some (w ++ ' ' :: clock, rest.drop (clock.length + 1))
  else some (w, rest)

/-- The value of a word. -/
def ofWord? (w : List Char) : Option Toml :=
  if w = "true".toList then some (.boolean true)
  else if w = "false".toList then some (.boolean false)
  else if isDatetime w then some .datetime
  else
    match integer? w with
    | some n => some (.integer n)
    | none =>
      -- a whole number that is too large is no float
      if (cutSign w).2.all (fun c => c.isDigit || c = '_') then none else (float? w).map .float

/-- The value of the word that a text begins with. -/
def scalar : Reader Toml := do
  let w ← word
  match ofWord? w with
  | some v => return v
  | none => Reader.fail

end Newsfeed.Toml
