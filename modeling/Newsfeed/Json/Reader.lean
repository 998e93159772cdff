import Newsfeed.Json

/-!
# Reading JSON text

A text is cut into tokens, and a machine with a stack of open arrays and objects takes one token
after the other. Nothing limits how deep it goes.

* `Json.Token.read?` : the first token of a text and what follows it.
* `Json.tokens?` : all tokens of a text.
* `Json.Machine.step?` : one token.
* `Json.parse?` : the value of a text.
-/

namespace Newsfeed.Json

/-! ## Strings -/

/-- One piece of a string: a character, or a unit of UTF-16 told by its number. -/
inductive Piece where
  | char (c : Char)
  | unit (u : Nat)
deriving DecidableEq, Repr

/-- The value of a hexadecimal digit in either case. -/
def hexValue? (c : Char) : Option Nat :=
  if c.isDigit then some (c.toNat - '0'.toNat)
  else if 'a' ≤ c ∧ c ≤ 'f' then some (c.toNat - 'a'.toNat + 10)
  else if 'A' ≤ c ∧ c ≤ 'F' then some (c.toNat - 'A'.toNat + 10)
  else none

/-- The value of four hexadecimal digits. -/
def hexUnit? (a b c d : Char) : Option Nat := do
  let a ← hexValue? a
  let b ← hexValue? b
  let c ← hexValue? c
  let d ← hexValue? d
  return ((a * 16 + b) * 16 + c) * 16 + d

/-- The character of an escape of one letter. -/
def escape? : Char → Option Char
  | '"' => some '"'
  | '\\' => some '\\'
  | '/' => some '/'
  | 'b' => some '\x08'
  | 'f' => some '\x0c'
  | 'n' => some '\n'
  | 'r' => some '\r'
  | 't' => some '\t'
  | _ => none

/-- The pieces of a string up to its closing quote, and what follows the quote. -/
def pieces? : List Char → Option (List Piece × List Char)
  | '\\' :: 'u' :: a :: b :: c :: d :: rest => do
    let u ← hexUnit? a b c d
    let (ps, rest) ← pieces? rest
    return (.unit u :: ps, rest)
  | '\\' :: e :: rest => do
    let c ← escape? e
    let (ps, rest) ← pieces? rest
    return (.char c :: ps, rest)
  | '"' :: rest => some ([], rest)
  | c :: rest => do
    guard (c ≠ '\\' ∧ 0x20 ≤ c.toNat)
    let (ps, rest) ← pieces? rest
    return (.char c :: ps, rest)
  | [] => none

/-- Whether a unit is the first half of a pair. -/
def isHighSurrogate (u : Nat) : Bool := 0xD800 ≤ u && u < 0xDC00

/-- Whether a unit is the second half of a pair. -/
def isLowSurrogate (u : Nat) : Bool := 0xDC00 ≤ u && u < 0xE000

/-- The characters of some pieces; `none` if a surrogate has no partner. -/
def characters? : List Piece → Option (List Char)
  | [] => some []
  | .char c :: rest => (characters? rest).map (c :: ·)
  | .unit u :: .unit v :: rest =>
    if isHighSurrogate u then
      if isLowSurrogate v then
        (characters? rest).map (Char.ofNat (0x10000 + (u - 0xD800) * 0x400 + (v - 0xDC00)) :: ·)
      else none
    else if isLowSurrogate u then none
    else (characters? (.unit v :: rest)).map (Char.ofNat u :: ·)
  | .unit u :: rest =>
    if isHighSurrogate u || isLowSurrogate u then none
    else (characters? rest).map (Char.ofNat u :: ·)

/-- The string after an opening quote. -/
def string? (s : List Char) : Option (Json × List Char) := do
  let (ps, rest) ← pieces? s
  return (.str ((characters? ps).map String.ofList), rest)

/-! ## Numbers -/

/-- The value of decimal digits. -/
def numeral (ds : List Char) : Nat := ds.foldl (fun n d => 10 * n + (d.toNat - '0'.toNat)) 0

/-- At least one digit. -/
def digits? (s : List Char) : Option (List Char × List Char) :=
  let ds := s.takeWhile Char.isDigit
  if ds.isEmpty then none else some (ds, s.dropWhile Char.isDigit)

/-- The integer part: a zero that stands alone, or digits that do not begin with zero. -/
def integerPart? (s : List Char) : Option (List Char × List Char) :=
  match s with
  | '0' :: rest => some (['0'], rest)
  | _ => digits? s

/-- The fraction, if a point follows. -/
def fractionPart? (s : List Char) : Option (List Char × List Char) :=
  match s with
  | '.' :: rest => digits? rest
  | _ => some ([], s)

/-- The digits of an exponent with their sign. -/
def signedExponent? (s : List Char) : Option (Int × List Char) :=
  match s with
  | '-' :: rest => (digits? rest).map fun r => (-(numeral r.1 : Int), r.2)
  | '+' :: rest => (digits? rest).map fun r => ((numeral r.1 : Int), r.2)
  | _ => (digits? s).map fun r => ((numeral r.1 : Int), r.2)

/-- The exponent, if one follows; `none` inside stands for a number without exponent. -/
def exponentPart? (s : List Char) : Option (Option Int × List Char) :=
  match s with
  | 'e' :: rest | 'E' :: rest => (signedExponent? rest).map fun r => (some r.1, r.2)
  | _ => some (none, s)

/-- The value of a number by its parts. Minus zero is a real number, and so is an integer beyond
64 bits. -/
def numberValue (negative : Bool) (whole frac : List Char) (exponent : Option Int) : Json :=
  let n := numeral whole
  let z : Int := if negative then -n else n
  let isInteger := frac.isEmpty && exponent.isNone && !(negative && n == 0)
  if isInteger && -0x8000000000000000 ≤ z && z < 0x10000000000000000 then
    .int z
  else
    .real (Score.ofDecimal? negative (numeral (whole ++ frac)) (exponent.getD 0 - frac.length))

/-- The number that a text begins with, its sign already taken. -/
def unsigned? (negative : Bool) (s : List Char) : Option (Json × List Char) := do
  let (whole, s) ← integerPart? s
  let (frac, s) ← fractionPart? s
  let (exponent, s) ← exponentPart? s
  return (numberValue negative whole frac exponent, s)

/-! ## Tokens -/

/-- A piece of JSON text. -/
inductive Token where
  | openArray
  | closeArray
  | openObject
  | closeObject
  | colon
  | comma
  /-- A value that is neither an array nor an object. -/
  | value (j : Json)
deriving Repr

/-- A word, if the text begins with it. -/
def word? (word : String) (j : Json) (s : List Char) : Option (Token × List Char) :=
  if word.toList.isPrefixOf s then some (.value j, s.drop word.length) else none

/-- The token that a text begins with, and what follows it. -/
def Token.read? (s : List Char) : Option (Token × List Char) :=
  match s with
  | '[' :: rest => some (.openArray, rest)
  | ']' :: rest => some (.closeArray, rest)
  | '\x7b' :: rest => some (.openObject, rest)
  | '\x7d' :: rest => some (.closeObject, rest)
  | ':' :: rest => some (.colon, rest)
  | ',' :: rest => some (.comma, rest)
  | '"' :: rest => (string? rest).map fun r => (.value r.1, r.2)
  | 't' :: _ => word? "true" (.bool true) s
  | 'f' :: _ => word? "false" (.bool false) s
  | 'n' :: _ => word? "null" .null s
  | '-' :: rest => (unsigned? true rest).map fun r => (.value r.1, r.2)
  | _ => (unsigned? false s).map fun r => (.value r.1, r.2)

/-- The blanks that may stand between tokens. -/
def isSpace (c : Char) : Bool := c = ' ' || c = '\t' || c = '\n' || c = '\r'

/-- All tokens of a text. Each of them takes a character at least, so `fuel` is as long as the
text. -/
def tokensFrom? : (fuel : Nat) → List Char → Option (List Token)
  | fuel, s =>
    match s.dropWhile isSpace with
    | [] => some []
    | c :: rest =>
      match fuel with
      | 0 => none
      | fuel + 1 => do
        let (t, rest) ← Token.read? (c :: rest)
        let ts ← tokensFrom? fuel rest
        return t :: ts

/-- All tokens of a text. -/
def tokens? (s : List Char) : Option (List Token) := tokensFrom? s.length s

/-! ## The machine -/

/-- An array or object that has not been closed: what it holds so far, in reverse, and the key of
the field that is being read. -/
inductive Frame where
  | arr (done : List Json)
  | obj (done : List (Option String × Json)) (key : Option (Option String))

/-- What may come next. -/
inductive Expected where
  /-- A value. -/
  | value
  /-- The first element of an array, or its end. -/
  | firstElement
  /-- A key. -/
  | key
  /-- The first key of an object, or its end. -/
  | firstKey
  /-- The colon after a key. -/
  | colon
  /-- A comma, or the end of an array or object. -/
  | comma
  /-- Nothing: the value is complete. -/
  | nothing
deriving DecidableEq

/-- The frames that are open, the innermost first, and what may come next. -/
structure Machine where
  frames : List Frame := []
  expected : Expected := .value
  result : Option Json := none

namespace Machine

/-- A value is complete: it goes into the innermost frame. -/
def put (m : Machine) (j : Json) : Option Machine :=
  match m.frames with
  | [] => some { frames := [], expected := .nothing, result := some j }
  | .arr done :: rest => some { m with frames := .arr (j :: done) :: rest, expected := .comma }
  | .obj done (some k) :: rest =>
    some { m with frames := .obj ((k, j) :: done) none :: rest, expected := .comma }
  | .obj _ none :: _ => none

/-- Opens a frame. -/
def enter (m : Machine) (f : Frame) (e : Expected) : Machine :=
  { m with frames := f :: m.frames, expected := e }

/-- Closes the innermost array. -/
def closeArray (m : Machine) : Option Machine :=
  match m.frames with
  | .arr done :: rest => put { m with frames := rest } (.arr done.reverse)
  | _ => none

/-- Closes the innermost object. -/
def closeObject (m : Machine) : Option Machine :=
  match m.frames with
  | .obj done none :: rest => put { m with frames := rest } (.obj done.reverse)
  | _ => none

/-- A comma asks for another element or another key. -/
def next (m : Machine) : Option Machine :=
  match m.frames with
  | .arr _ :: _ => some { m with expected := .value }
  | .obj .. :: _ => some { m with expected := .key }
  | [] => none

/-- A key has been read. -/
def setKey (m : Machine) (k : Option String) : Option Machine :=
  match m.frames with
  | .obj done _ :: rest => some { m with frames := .obj done (some k) :: rest, expected := .colon }
  | _ => none

/-- Takes a token where a value may stand. -/
def takeValue (m : Machine) : Token → Option Machine
  | .value j => m.put j
  | .openArray => some (m.enter (.arr []) .firstElement)
  | .openObject => some (m.enter (.obj [] none) .firstKey)
  | _ => none

/-- Takes one token. -/
def step? (m : Machine) (t : Token) : Option Machine :=
  match m.expected, t with
  | .firstElement, .closeArray => m.closeArray
  | .value, t | .firstElement, t => m.takeValue t
  | .firstKey, .closeObject => m.closeObject
  | .key, .value (.str k) | .firstKey, .value (.str k) => m.setKey k
  | .colon, .colon => some { m with expected := .value }
  | .comma, .comma => m.next
  | .comma, .closeArray => m.closeArray
  | .comma, .closeObject => m.closeObject
  | _, _ => none

end Machine

/-- The value of a text. -/
def parse? (s : String) : Option Json := do
  let ts ← tokens? s.toList
  let m ← ts.foldlM Machine.step? {}
  m.result

end Newsfeed.Json
