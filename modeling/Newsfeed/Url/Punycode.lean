/-!
# Punycode

RFC 3492: a label of any characters in ASCII letters, digits and hyphens. The ASCII characters come
first, then a hyphen, then the places of all others, told in growing order of their code points as
numbers of variable length whose digits adapt to the distances seen so far.

* `encode` : the ASCII form of a label.
* `decode?` : the label of an ASCII form.
-/

namespace Newsfeed.Punycode

/-- A digit of base 36: the letters first, then the figures. -/
def digitChar (d : Nat) : Char :=
  if d < 26 then Char.ofNat (d + 'a'.toNat) else Char.ofNat (d - 26 + '0'.toNat)

/-- The value of a digit. -/
def digitValue? (c : Char) : Option Nat :=
  if 'a' ≤ c ∧ c ≤ 'z' then some (c.toNat - 'a'.toNat)
  else if 'A' ≤ c ∧ c ≤ 'Z' then some (c.toNat - 'A'.toNat)
  else if '0' ≤ c ∧ c ≤ '9' then some (c.toNat - '0'.toNat + 26)
  else none

/-- The digit at position `k` (36, 72, …) ends a number if it is below this threshold. -/
def threshold (k bias : Nat) : Nat := min 26 (max 1 (k - bias))

/-- Divides by 35 until the distance is small, counting 36 for each time. -/
def scaleDown (delta k : Nat) : Nat :=
  if 455 < delta then scaleDown (delta / 35) (k + 36) else k + 36 * delta / (delta + 38)
termination_by delta
decreasing_by omega

/-- The bias after a distance; the first distance of a label is damped. -/
def adapt (delta count : Nat) (first : Bool) : Nat :=
  let d := if first then delta / 700 else delta / 2
  scaleDown (d + d / count) 0

/-- A number in digits of variable length, the lowest digit first. -/
def encodeNumber (bias k q : Nat) : List Char :=
  let t := threshold k bias
  if q < t then [digitChar q]
  else digitChar (t + (q - t) % (36 - t)) :: encodeNumber bias (k + 36) ((q - t) / (36 - t))
termination_by q
decreasing_by
  have ht : 1 ≤ threshold k bias := by unfold threshold; omega
  have := Nat.div_le_self (q - threshold k bias) (36 - threshold k bias)
  omega

/-- How far the encoder has come. -/
structure Encoding where
  output : List Char
  delta : Nat
  bias : Nat
  /-- The number of characters that have been told so far. -/
  count : Nat

/-- Passes one character of the label while the code point `n` is told: smaller ones lengthen the
distance, `n` itself is written. -/
def Encoding.pass (ascii n : Nat) (s : Encoding) (c : Char) : Encoding :=
  if c.toNat < n then { s with delta := s.delta + 1 }
  else if c.toNat = n then
    { output := s.output ++ encodeNumber s.bias 36 s.delta
      delta := 0
      bias := adapt s.delta (s.count + 1) (s.count == ascii)
      count := s.count + 1 }
  else s

/-- The distinct elements of a list in growing order. -/
def distinct (ns : List Nat) : List Nat :=
  (ns.mergeSort fun a b => a ≤ b).foldr
    (fun n acc => if acc.head? = some n then acc else n :: acc) []

/-- Tells the code points in growing order; `next` is the smallest one that can still come. -/
def encodeFrom (label : List Char) (ascii : Nat) : List Nat → Nat → Encoding → Encoding
  | [], _, s => s
  | n :: ns, next, s =>
    let s := { s with delta := s.delta + (n - next) * (s.count + 1) }
    let s := label.foldl (Encoding.pass ascii n) s
    encodeFrom label ascii ns (n + 1) { s with delta := s.delta + 1 }

/-- The ASCII form of a label. -/
def encode (label : List Char) : List Char :=
  let basic := label.filter fun c => c.toNat < 128
  let others := distinct ((label.map Char.toNat).filter (128 ≤ ·))
  let start : Encoding := ⟨[], 0, 72, basic.length⟩
  basic ++ (if basic.isEmpty then [] else ['-']) ++
    (encodeFrom label basic.length others 128 start).output

/-- Reads a number of variable length; returns it and what follows. -/
def decodeNumber? (bias : Nat) : (k weight : Nat) → List Char → Option (Nat × List Char)
  | _, _, [] => none
  | k, weight, c :: rest => do
    let d ← digitValue? c
    let t := threshold k bias
    if d < t then return (d * weight, rest)
    let (n, rest) ← decodeNumber? bias (k + 36) (weight * (36 - t)) rest
    return (d * weight + n, rest)

/-- How far the decoder has come. -/
structure Decoding where
  output : List Char
  position : Nat
  codePoint : Nat
  bias : Nat

/-- Puts the next character in its place, given its distance; `none` if there is no such
character. -/
def Decoding.place? (s : Decoding) (delta : Nat) : Option Decoding := do
  let count := s.output.length + 1
  let i := s.position + delta
  let n := s.codePoint + i / count
  guard (Nat.isValidChar n)
  let slot := i % count
  return { output := s.output.take slot ++ Char.ofNat n :: s.output.drop slot
           position := slot + 1
           codePoint := n
           bias := adapt delta count (s.position == 0) }

/-- Reads distances to the end. Each of them takes a character, so `fuel` is as long as the text. -/
def decodeFrom? : (fuel : Nat) → List Char → Decoding → Option Decoding
  | _, [], s => some s
  | 0, _, _ => none
  | fuel + 1, cs, s => do
    let (delta, rest) ← decodeNumber? s.bias 36 1 cs
    let s ← s.place? delta
    decodeFrom? fuel rest s

/-- The label of an ASCII form; `none` if it is not one. -/
def decode? (s : List Char) : Option (List Char) := do
  guard (s.all fun c => c.toNat < 128)
  let tail := (s.reverse.takeWhile (· ≠ '-')).reverse
  let head := s.take (s.length - tail.length)
  let (basic, digits) := if head.length ≤ 1 then ([], s) else (head.dropLast, tail)
  let r ← decodeFrom? digits.length digits ⟨basic, 0, 128, 72⟩
  return r.output

end Newsfeed.Punycode
