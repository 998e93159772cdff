import Newsfeed.Unicode.Direction
import Newsfeed.Unicode.DomainMapping
import Newsfeed.Unicode.Joining
import Newsfeed.Unicode.Normalization
import Newsfeed.Url.Punycode

/-!
# Domain names in ASCII

UTS 46: a domain name is mapped and normalized, its labels are checked, and labels beyond ASCII are
written in Punycode after `xn--`. Hyphens and the characters of host names are not restricted here,
and lengths only so far that no label takes long to convert.

* `isValidLabel` : no mark in front, no joiner out of place, nothing that the mapping would change.
* `obeysBidi` : the rule of RFC 5893 for labels of a name in which something runs from right to
  left.
* `domainToAscii?` : the ASCII form of a domain name.
-/

namespace Newsfeed

open Unicode

/-! ## Checks of a label -/

/-- Zero width non-joiner and zero width joiner. -/
def nonJoiner : Char := '\u200c'

@[inherit_doc nonJoiner]
def joiner : Char := '\u200d'

/-- Whether the nearest character that is not transparent joins toward the place in question. -/
def joinsOver (towards : JoiningType) (cs : List Char) : Bool :=
  match cs.dropWhile (joiningType · == .transparent) with
  | [] => false
  | c :: _ => joiningType c == towards || joiningType c == .dual

/-- Whether a joiner may stand between the characters before it, in reverse, and those after it: a
virama goes before it, or a non-joiner parts two letters that would join. -/
def joinerFits (c : Char) (before after : List Char) : Bool :=
  let afterVirama := (before.head?.map combiningClass) == some 9
  if c = joiner then afterVirama
  else if c = nonJoiner then
    afterVirama || (joinsOver .left before && joinsOver .right after)
  else true

/-- Whether every joiner of a label is in place. The characters before are held in reverse. -/
def joinersFit : (before after : List Char) → Bool
  | _, [] => true
  | before, c :: after => joinerFits c before after && joinersFit (c :: before) after

/-- Whether a label may stand in a domain name as it is. -/
def isValidLabel (label : List Char) : Bool :=
  !(label.head?.any isMark) && label.all isDomainValid && joinersFit [] label

/-! ## Writing direction -/

/-- Whether something in a text runs from right to left. -/
def isBidi (s : List Char) : Bool :=
  s.any fun c =>
    match direction c with
    | .rightToLeft | .arabicLetter | .arabicNumber => true
    | _ => false

/-- The classes that labels of either direction may hold. -/
def isCommonDirection : Direction → Bool
  | .europeanNumber | .europeanSeparator | .commonSeparator | .europeanTerminator | .neutral
  | .boundaryNeutral | .nonspacingMark => true
  | _ => false

/-- The class of the last character that is not a nonspacing mark. -/
def lastDirection? (ds : List Direction) : Option Direction :=
  (ds.reverse.dropWhile (· == .nonspacingMark)).head?

/-- A label that begins from left to right holds nothing of the other direction and ends in a
letter or a European number. -/
def obeysLeftToRight (ds : List Direction) : Bool :=
  ds.all (fun d => d == .leftToRight || isCommonDirection d) &&
    (lastDirection? ds).any fun d => d == .leftToRight || d == .europeanNumber

/-- A label that begins from right to left holds no letter of the other direction and numbers of
one kind only, and ends in a letter or a number. -/
def obeysRightToLeft (ds : List Direction) : Bool :=
  ds.all (fun d =>
    d == .rightToLeft || d == .arabicLetter || d == .arabicNumber || isCommonDirection d) &&
    (lastDirection? ds).any (fun d =>
      d == .rightToLeft || d == .arabicLetter || d == .europeanNumber || d == .arabicNumber) &&
    !(ds.contains .europeanNumber && ds.contains .arabicNumber)

/-- The rule for one label; an empty label keeps it. -/
def obeysBidi (label : List Char) : Bool :=
  let ds := label.map direction
  match ds.head? with
  | none => true
  | some .leftToRight => obeysLeftToRight ds
  | some .rightToLeft | some .arabicLetter => obeysRightToLeft ds
  | some _ => false

/-! ## The ASCII form -/

/-- Whether a text is plain ASCII. -/
def isAsciiText (s : List Char) : Bool := s.all fun c => c.toNat < 128

/-- What opens a label in Punycode. -/
def punycodeMark : List Char := "xn--".toList

/-- The most characters of a label that is converted to Punycode. -/
def maxEncodedLength : Nat := 1000

/-- The most characters of Punycode that are converted to a label. -/
def maxDecodedLength : Nat := 2000

/-- The label that a mapped label stands for; one in Punycode is decoded, and must then be a
label that could not have been written without. -/
def unicodeLabel? (label : List Char) : Option (List Char) :=
  if punycodeMark.isPrefixOf label then do
    let code := label.drop punycodeMark.length
    guard (code.length ≤ maxDecodedLength)
    let u ← Punycode.decode? code
    guard (!isAsciiText u && nfc u == u)
    return u
  else some label

/-- A label in ASCII, unless it is too long to be converted. -/
def asciiLabel? (label : List Char) : Option (List Char) :=
  if isAsciiText label then some label
  else if label.length ≤ maxEncodedLength then some (punycodeMark ++ Punycode.encode label)
  else none

/-- Labels joined by dots. -/
def joinLabels (labels : List (List Char)) : List Char := List.intercalate ['.'] labels

/-- The ASCII form of a domain name, or `none` if a rule is broken. -/
def domainToAscii? (domain : List Char) : Option (List Char) := do
  let mapped ← mapDomain domain
  let labels ← (parts '.' (nfc mapped)).mapM unicodeLabel?
  guard (labels.all isValidLabel)
  guard (!labels.any isBidi || labels.all obeysBidi)
  return joinLabels (← labels.mapM asciiLabel?)

end Newsfeed
