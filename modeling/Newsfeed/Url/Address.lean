import Newsfeed.Unicode.Table

/-!
# Numeric hosts

Hosts that are addresses: four bytes of IPv4, written in one to four numbers of any of three
bases, and eight pieces of IPv6, in which one run of zeros may be left out.

* `Ipv4.endsInNumber` : whether a host has to be read as an IPv4 address.
* `Ipv4.read?`, `Ipv4.write` : an address from its text, and its four decimal numbers.
* `Ipv6.read?`, `Ipv6.write` : the pieces of an address from its text, and the text in which the
  longest run of zeros is left out.
-/

namespace Newsfeed

open Unicode (parts)

/-- Whether a character is a hexadecimal digit in either case. -/
def isHexDigit (c : Char) : Bool :=
  c.isDigit || ('a' ≤ c && c ≤ 'f') || ('A' ≤ c && c ≤ 'F')

/-- The number that digits stand for in a base of at most sixteen. -/
def numberInBase (base : Nat) (ds : List Char) : Nat :=
  ds.foldl (fun n c => base * n + Unicode.hexDigit c.toLower) 0

/-- A number below 2³² in hexadecimal, lower case. -/
def hexText (n : Nat) : List Char := Nat.toDigits 16 n

namespace Ipv4

/-- A part of an address: hexadecimal after `0x`, octal after a leading zero, decimal otherwise.
`0x` alone is zero. -/
def part? (s : List Char) : Option Nat :=
  match s with
  | [] => none
  | '0' :: 'x' :: ds | '0' :: 'X' :: ds =>
    if ds.all isHexDigit then some (numberInBase 16 ds) else none
  | '0' :: d :: ds =>
    if (d :: ds).all fun c => '0' ≤ c && c ≤ '7' then some (numberInBase 8 (d :: ds)) else none
  | ds => if ds.all Char.isDigit then some (numberInBase 10 ds) else none

/-- The parts of a host between its dots; one dot at the end does not count. -/
def partsOf (host : List Char) : List (List Char) :=
  let ps := parts '.' host
  if ps.getLast? = some [] then ps.dropLast else ps

/-- Whether the last part of a host is a number, be it in a base where its digits do not exist. -/
def endsInNumber (host : List Char) : Bool :=
  match (partsOf host).getLast? with
  | none => false
  | some [] => false
  | some s => s.all Char.isDigit || (part? s).isSome

/-- The address of a host: each part but the last is one byte, the last one fills the rest. -/
def read? (host : List Char) : Option Nat := do
  let ps ← (partsOf host).mapM part?
  let last ← ps.getLast?
  let bytes := ps.dropLast
  guard (bytes.length < 4)
  guard (bytes.all (· < 256))
  let free := 1 <<< (8 * (4 - bytes.length))
  guard (last < free)
  let high := bytes.foldl (fun n b => 256 * n + b) 0
  return high * free + last

/-- An address as four decimal numbers. -/
def write (address : Nat) : List Char :=
  let byte (k : Nat) : List Char := Nat.toDigits 10 ((address >>> (8 * k)) % 256)
  byte 3 ++ '.' :: byte 2 ++ '.' :: byte 1 ++ '.' :: byte 0

end Ipv4

namespace Ipv6

/-- One piece: one to four hexadecimal digits. -/
def piece? (s : List Char) : Option Nat :=
  if 1 ≤ s.length ∧ s.length ≤ 4 ∧ s.all isHexDigit then some (numberInBase 16 s) else none

/-- A byte in decimal, without leading zeros. -/
def byte? (s : List Char) : Option Nat :=
  let n := numberInBase 10 s
  if s ≠ [] ∧ s.all Char.isDigit ∧ (s.head? = some '0' → s.length = 1) ∧ n < 256 then some n
  else none

/-- The two pieces of an IPv4 address in four decimal bytes. -/
def dotted? (s : List Char) : Option (List Nat) := do
  match ← (parts '.' s).mapM byte? with
  | [a, b, c, d] => return [a * 256 + b, c * 256 + d]
  | _ => none

/-- The pieces of a text joined by colons; the last one may be an IPv4 address if that is
allowed. -/
def pieces? (allowDotted : Bool) : List (List Char) → Option (List Nat)
  | [] => some []
  | [s] =>
    match piece? s with
    | some p => some [p]
    | none => if allowDotted then dotted? s else none
  | s :: rest => do
    let p ← piece? s
    let ps ← pieces? allowDotted rest
    return p :: ps

/-- The pieces of a text that may be empty. -/
def side? (allowDotted : Bool) (s : List Char) : Option (List Nat) :=
  if s = [] then some [] else pieces? allowDotted (parts ':' s)

/-- A text cut at its first double colon. -/
def cut? : List Char → Option (List Char × List Char)
  | ':' :: ':' :: rest => some ([], rest)
  | c :: rest => (cut? rest).map fun r => (c :: r.1, r.2)
  | [] => none

/-- The eight pieces of an address. A double colon stands for one piece of zeros or more. -/
def read? (s : List Char) : Option (List Nat) :=
  match cut? s with
  | none => do
    let ps ← side? true s
    if ps.length = 8 then some ps else none
  | some (l, r) => do
    let left ← side? false l
    let right ← side? true r
    let given := left.length + right.length
    if given ≤ 7 then some (left ++ List.replicate (8 - given) 0 ++ right) else none

/-- How many pieces from the front are zero. -/
def zeros (ps : List Nat) : Nat := (ps.takeWhile (· = 0)).length

/-- The longest run of zeros, the first of several: where it starts and how long it is. -/
def longestZeros : Nat → List Nat → Nat × Nat
  | i, [] => (i, 0)
  | i, p :: ps =>
    let here := zeros (p :: ps)
    let later := longestZeros (i + 1) ps
    if here ≠ 0 ∧ later.2 ≤ here then (i, here) else later

/-- Pieces joined by colons. -/
def join (ps : List Nat) : List Char := List.intercalate [':'] (ps.map hexText)

/-- An address in brackets; the longest run of at least two zeros is left out. -/
def write (ps : List Nat) : List Char :=
  let (start, length) := longestZeros 0 ps
  let body :=
    if length < 2 then join ps
    else join (ps.take start) ++ "::".toList ++ join (ps.drop (start + length))
  '[' :: body ++ [']']

end Ipv6

end Newsfeed
