import Newsfeed.Unicode.Table

/-!
# Paths of files

The path of a file URL is walked segment by segment. A drive letter at its root names a local
drive, so that the URL has no host, whatever stands in front of the path. Tabs and line breaks do
not count, with one exception: behind a drive letter and a colon at the root they end the segment.

* `leave` : one level up; a drive is not left.
* `breaksOffDrive` : whether a segment falls apart behind a drive letter.
* `namesDrive` : whether a drive letter comes to stand at the root.
-/

namespace Newsfeed.FilePath

/-- Whether a character is a tab or part of a line break. -/
def isBreak (c : Char) : Bool := c = '\t' || c = '\n' || c = '\r'

/-- A text without tabs and line breaks. -/
def unbroken (s : List Char) : List Char := s.filter (!isBreak ·)

/-- Whether a text is a drive letter: a letter and a colon or bar. -/
def isDriveLetter (s : List Char) : Bool :=
  match s with
  | [c, d] => c.isAlpha && (d = ':' || d = '|')
  | _ => false

/-- How many dots a segment has if it has nothing else; a dot may be written as `%2e`. -/
def dots? : List Char → Option Nat
  | [] => some 0
  | '.' :: rest => (dots? rest).map (· + 1)
  | '%' :: '2' :: 'e' :: rest | '%' :: '2' :: 'E' :: rest => (dots? rest).map (· + 1)
  | _ => none

/-- The segments above the present place, the nearest one first, after a step up. -/
def leave : List (List Char) → List (List Char)
  | [] => []
  | s :: above => if isDriveLetter s then s :: above else above

/-- Whether a segment, which may hold tabs and line breaks, begins with a letter, a colon and a
break, so that the drive is a segment of its own. -/
def breaksOffDrive (s : List Char) : Bool :=
  match s.dropWhile isBreak with
  | [] => false
  | c :: rest =>
    match rest.dropWhile isBreak with
    | ':' :: d :: _ => c.isAlpha && isBreak d
    | _ => false

/-- Whether a walk along some segments comes upon a drive letter at the root. A drive that breaks
off from the rest of its segment is not noticed, and since it is not left nothing else comes to
stand at the root. -/
def walk : (above : List (List Char)) → List (List Char) → Bool
  | _, [] => false
  | above, s :: rest =>
    let name := unbroken s
    match dots? name with
    | some 1 => walk above rest
    | some 2 => walk (leave above) rest
    | _ =>
      if above.isEmpty && isDriveLetter name then true
      else if above.isEmpty && breaksOffDrive s then false
      else walk (name :: above) rest

/-- The segments of a path, which begins with a slash or is empty. Backslashes count as slashes. -/
def segments (path : List Char) : List (List Char) :=
  Unicode.parts '/' ((path.drop 1).map fun c => if c = '\\' then '/' else c)

/-- Whether a drive letter comes to stand at the root of a path. -/
def namesDrive (path : List Char) : Bool := walk [] (segments path)

end Newsfeed.FilePath
