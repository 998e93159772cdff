import Newsfeed.Text.Percent
import Newsfeed.Url.Address
import Newsfeed.Url.Domain
import Newsfeed.Url.FilePath

/-!
# The host of a URL

The URL standard without a base URL, as far as it decides which host and port a URL names.

* `Scheme` : what the scheme means for the host.
* `domainHost?`, `opaqueHost?` : the host of a special scheme and of any other.
* `hostOf?` : host and port of a URL; the port is left out where it is the default of its scheme.
-/

namespace Newsfeed

/-- What a scheme means for the host: files, schemes with a default port of their own (none for
those that have none), and all others. -/
inductive Scheme where
  | file
  | special (defaultPort : Nat)
  | other
deriving DecidableEq, Repr

namespace Scheme

/-- The kind of a scheme name in lower case. -/
def ofName (name : String) : Scheme :=
  if name = "file" then .file
  else if name = "http" || name = "ws" then .special 80
  else if name = "https" || name = "wss" then .special 443
  else if name = "ftp" then .special 21
  else .other

/-- A backslash is a slash in special schemes. -/
def isSlash (s : Scheme) (c : Char) : Bool := c = '/' || (c = '\\' && s ≠ .other)

/-- Whether a character ends the part of a URL that names the host. -/
def endsAuthority (s : Scheme) (c : Char) : Bool := s.isSlash c || c = '?' || c = '#'

end Scheme

/-! ## Text of a URL -/

/-- The text of a URL without controls and spaces around it. -/
def trimUrl (url : List Char) : List Char :=
  let isEdge (c : Char) : Bool := c.toNat ≤ 0x20
  ((url.dropWhile isEdge).reverse.dropWhile isEdge).reverse

/-- Whether a character can stand in a scheme after the first letter. -/
def isSchemeChar (c : Char) : Bool := c.isAlphanum || c = '+' || c = '-' || c = '.'

/-- The scheme of a URL, in lower case, and what comes after its colon. -/
def cutScheme? (s : List Char) : Option (Scheme × List Char) := do
  let first ← s.head?
  guard first.isAlpha
  match s.dropWhile isSchemeChar with
  | ':' :: rest =>
    return (Scheme.ofName (String.ofList ((s.takeWhile isSchemeChar).map Char.toLower)), rest)
  | _ => none

/-! ## Hosts -/

/-- Characters that no host may hold. -/
def forbiddenInHost : List Char :=
  ['\x00', '\t', '\n', '\r', ' ', '#', '/', ':', '<', '>', '?', '@', '[', '\\', ']', '^', '|']

/-- Whether a character may not stand in the ASCII form of a domain name. -/
def isForbiddenInDomain (c : Char) : Bool :=
  forbiddenInHost.contains c || c.toNat ≤ 0x1F || c = '%' || c = '\x7f'

/-- A host in brackets is an IPv6 address; the outcome is `none` for any other host. -/
def bracketHost? (s : List Char) : Option (Option (List Char)) :=
  match s with
  | '[' :: inner =>
    some (if inner.getLast? = some ']' then (Ipv6.read? inner.dropLast).map Ipv6.write else none)
  | _ => none

/-- A domain name or an address, decoded and brought to its ASCII form. -/
def domainHost? (s : List Char) : Option (List Char) :=
  match bracketHost? s with
  | some r => r
  | none => do
    let domain ← Text.Percent.decode? s
    let ascii ← domainToAscii? domain
    guard (ascii ≠ [] ∧ !ascii.any isForbiddenInDomain)
    if Ipv4.endsInNumber ascii then (Ipv4.read? ascii).map Ipv4.write else return ascii

/-- A host that has no meaning beyond its text. -/
def opaqueHost? (s : List Char) : Option (List Char) :=
  match bracketHost? s with
  | some r => r
  | none => if s.any forbiddenInHost.contains then none else some (Text.Percent.encodeControls s)

/-! ## Authority -/

/-- What follows the credentials: everything after the last `@`. -/
def dropCredentials (s : List Char) : List Char := (s.reverse.takeWhile (· ≠ '@')).reverse

/-- An authority cut at the first colon outside brackets; the second part begins with it. -/
def cutPort (inBrackets : Bool) : List Char → List Char × List Char
  | [] => ([], [])
  | c :: rest =>
    if c = ':' ∧ !inBrackets then ([], c :: rest)
    else
      let r := cutPort (if c = '[' then true else if c = ']' then false else inBrackets) rest
      (c :: r.1, r.2)

/-- The port of a text that is empty or begins with a colon: `none` if it is malformed, `some none`
if there is no port. -/
def port? (s : List Char) : Option (Option Nat) :=
  match s with
  | [] => some none
  | _ :: rest =>
    let ds := rest.takeWhile Char.isDigit
    match rest.dropWhile Char.isDigit with
    | [] | '\\' :: _ =>
      let n := numberInBase 10 ds
      if ds = [] then some none else if n ≤ 65535 then some (some n) else none
    | _ => none

/-- Host and port of an authority. -/
def authorityHost? (scheme : Scheme) (s : List Char) : Option (List Char) := do
  let (host, portText) := cutPort false (dropCredentials (s.takeWhile (!scheme.endsAuthority ·)))
  guard (host ≠ [])
  let (host, default) ←
    match scheme with
    | .special p => (domainHost? host).map fun h => (h, some p)
    | _ => (opaqueHost? host).map fun h => (h, none)
  match ← port? portText with
  | none => return host
  | some p => return if some p = default then host else host ++ ':' :: Nat.toDigits 10 p

/-- The host of a file after the two slashes: it has neither credentials nor port, and the local
host counts as none, as does any host of a local drive. Tabs and line breaks matter to the path
only. -/
def fileHost? (s : List Char) : Option (List Char) := do
  let text := FilePath.unbroken (s.takeWhile (!Scheme.file.endsAuthority ·))
  let path := (s.dropWhile (!Scheme.file.endsAuthority ·)).takeWhile fun c => c ≠ '?' && c ≠ '#'
  guard (text ≠ [] ∧ !FilePath.isDriveLetter text ∧ !FilePath.namesDrive path)
  let host ← domainHost? text
  if host = "localhost".toList then none else return host

/-- A text after its first two slashes, which only tabs and line breaks may come before. -/
def afterSlashes? (s : List Char) : Option (List Char) :=
  match s.dropWhile FilePath.isBreak with
  | a :: rest =>
    match rest.dropWhile FilePath.isBreak with
    | b :: rest => if Scheme.file.isSlash a && Scheme.file.isSlash b then some rest else none
    | [] => none
  | [] => none

/-- Host and port of a URL, if it is well formed and has a host. -/
def hostOf? (url : String) : Option String := do
  let text := trimUrl url.toList
  let (scheme, rest) ← cutScheme? (FilePath.unbroken text)
  let host ←
    match scheme, rest with
    | .special _, _ => authorityHost? scheme (rest.dropWhile scheme.isSlash)
    | .file, _ => do fileHost? (← afterSlashes? ((text.dropWhile (· ≠ ':')).drop 1))
    | .other, '/' :: '/' :: rest => authorityHost? scheme rest
    | _, _ => none
  return String.ofList host

end Newsfeed
