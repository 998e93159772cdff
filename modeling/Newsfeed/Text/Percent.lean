/-!
# Percent encoding

Bytes in URLs are written as a percent sign and two hexadecimal digits.

* `decode` : the bytes of a text; a percent sign without two digits stands for itself.
* `encodeControls` : a text in which control characters and everything beyond ASCII are written as
  bytes.
-/

namespace Newsfeed.Text.Percent

/-- The value of a hexadecimal digit in either case. -/
def hexValue? (b : UInt8) : Option UInt8 :=
  if 0x30 ≤ b ∧ b ≤ 0x39 then some (b - 0x30)
  else if 0x41 ≤ b ∧ b ≤ 0x46 then some (b - 0x41 + 10)
  else if 0x61 ≤ b ∧ b ≤ 0x66 then some (b - 0x61 + 10)
  else none

/-- The byte that three bytes stand for, if they are a percent sign and two digits. -/
def triple? (b high low : UInt8) : Option UInt8 :=
  match hexValue? high, hexValue? low with
  | some h, some l => if b = 0x25 then some (h * 16 + l) else none
  | _, _ => none

/-- Replaces every percent sign and the two digits after it by the byte that they stand for. -/
def decodeBytes : List UInt8 → List UInt8
  | b :: high :: low :: rest =>
    match triple? b high low with
    | some x => x :: decodeBytes rest
    | none => b :: decodeBytes (high :: low :: rest)
  | bs => bs

/-- A decoded text; `none` if its bytes are not UTF-8. -/
def decode? (s : List Char) : Option (List Char) :=
  (String.fromUTF8? ⟨(decodeBytes (String.ofList s).toUTF8.toList).toArray⟩).map String.toList

/-- A hexadecimal digit in upper case. -/
def hexDigit (n : Nat) : Char := (Nat.digitChar n).toUpper

/-- A byte as a percent sign and two digits. -/
def encodeByte (b : UInt8) : List Char := ['%', hexDigit (b.toNat / 16), hexDigit (b.toNat % 16)]

/-- Whether a character is written as bytes: controls and everything beyond ASCII are. -/
def isEncoded (c : Char) : Bool := c.toNat < 0x20 || 0x7E < c.toNat

/-- A text with controls and non-ASCII characters written as bytes. -/
def encodeControls (s : List Char) : List Char :=
  s.flatMap fun c =>
    if isEncoded c then c.toString.toUTF8.toList.flatMap encodeByte else [c]

end Newsfeed.Text.Percent
