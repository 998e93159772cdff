import Newsfeed.Text.Blank
import Newsfeed.Unicode.Letters

/-!
# Environment files

A file of assignments, one to a line, which supplies variables that are not set. Values may be
quoted, also over several lines, and may refer to other variables. The first malformed line ends
the file; what comes before it stands.

* `EnvFile.cutLine` : the first line of a file, with the lines that its quotes draw in.
* `EnvFile.content?` : the variable and the value of a line.
* `EnvFile.load` : the variables after a file has been read.
* `EnvFile.lookup_load` : a variable that is set keeps its value.
-/

namespace Newsfeed.EnvFile

open Text

/-! ## Lines -/

/-- Where in a line a scan is. -/
inductive Scan where
  | plain
  | afterBlank
  | escape
  | strong
  | strongEscape
  | weak
  | weakEscape
deriving DecidableEq, Repr

/-- The state after a character outside quotes. -/
def Scan.open (c : Char) (otherwise : Scan) : Scan :=
  if c = '\\' then .escape
  else if c = '"' then .weak
  else if c = '\'' then .strong
  else otherwise

/-- The state after one more character; `none` where a comment begins. -/
def Scan.next? (s : Scan) (c : Char) : Option Scan :=
  match s with
  | .plain =>
    some (.open c (if isBlank c && c ≠ '\n' && c ≠ '\r' then .afterBlank else .plain))
  | .afterBlank => if c = '#' then none else some (.open c .plain)
  | .escape => some .plain
  | .strong => some (if c = '\\' then .strongEscape else if c = '\'' then .plain else .strong)
  | .strongEscape => some .strong
  | .weak => some (if c = '\\' then .weakEscape else if c = '"' then .plain else .weak)
  | .weakEscape => some .weak

/-- Whether a text begins with a comment. -/
def isComment (s : List Char) : Bool := (trimStart s).head? = some '#'

/-- The first physical line of a text, with its line break, and what follows it. -/
def cutPhysical : List Char → List Char × List Char
  | [] => ([], [])
  | c :: rest =>
    if c = '\n' then ([c], rest)
    else
      let r := cutPhysical rest
      (c :: r.1, r.2)

/-- How a scan of a physical line ends. -/
inductive LineEnd where
  /-- In some state, at the end of the line. -/
  | state (s : Scan)
  /-- At a comment; what comes before it is kept. -/
  | comment (before : List Char)

/-- Scans a physical line. The characters passed are held in reverse. -/
def scanLine : (passed : List Char) → Scan → List Char → LineEnd
  | _, s, [] => .state s
  | passed, s, c :: rest =>
    match s.next? c with
    | none => .comment passed.reverse
    | some s => scanLine (c :: passed) s rest

/-- A line without its line break. -/
def dropLineBreak (s : List Char) : List Char :=
  match s.reverse with
  | '\n' :: '\r' :: r => r.reverse
  | '\n' :: r => r.reverse
  | _ => s

/-- What the front of a file is. -/
inductive Front where
  /-- A line, and what follows it. -/
  | line (text rest : List Char)
  /-- The end of the file. -/
  | finished
  /-- A line that the end of the file cuts off. -/
  | broken

/-- Draws in physical lines until a line is complete. Each takes a character at least, so `fuel` is
longer than the text. -/
def cutFrom : (fuel : Nat) → (drawn : List Char) → Scan → List Char → Front
  | 0, _, _, _ => .broken
  | fuel + 1, drawn, s, text =>
    match cutPhysical text with
    | ([], _) => if s = .plain then .finished else .broken
    | (physical, rest) =>
      let all := drawn ++ physical
      if isComment all then .line [] rest
      else
        match scanLine [] s physical with
        | .comment before => .line (drawn ++ before) rest
        | .state .plain => .line (dropLineBreak all) rest
        | .state s => cutFrom fuel all s rest

/-- The first line of a text. -/
def cutLine (text : List Char) : Front := cutFrom (text.length + 1) [] .plain text

/-! ## Values -/

/-- Variables and their values. -/
abbrev Variables := List (String × String)

/-- The value of a variable that a value refers to: the variable that is set, or else the latest
value that the file gave it; one that has neither is empty. -/
def referTo (set given : Variables) (name : List Char) : List Char :=
  let key := String.ofList name
  match set.lookup key with
  | some v => v.toList
  | none => ((given.lookup key).getD "").toList

/-- Where in a reference a value is. -/
inductive Reference where
  | outside
  /-- After a dollar sign; the name so far, in reverse. -/
  | bare (name : List Char)
  /-- In braces. -/
  | braced (name : List Char)
deriving DecidableEq, Repr

/-- How far a value has been read; the output is in reverse. -/
structure Reading where
  output : List Char := []
  strong : Bool := false
  weak : Bool := false
  escaped : Bool := false
  /-- After the value only blanks and a comment may come. -/
  ended : Bool := false
  /-- A comment has begun. -/
  commented : Bool := false
  reference : Reference := .outside

/-- Appends the value of a variable. -/
def Reading.refer (r : Reading) (set given : Variables) (name : List Char) : Reading :=
  { r with
    output := (referTo set given name.reverse).reverse ++ r.output
    reference := .outside }

/-- Appends a character. -/
def Reading.push (r : Reading) (c : Char) : Reading := { r with output := c :: r.output }

/-- The character of an escape. -/
def escape? (c : Char) : Option Char :=
  if c = 'n' then some '\n'
  else if c = '\\' || c = '\'' || c = '"' || c = '$' || c = ' ' then some c
  else none

/-- Reads one character within a reference. -/
def Reading.inReference (r : Reading) (set given : Variables) (c : Char) : Reading :=
  match r.reference with
  | .outside => r
  | .bare name =>
    if Unicode.isLetterOrNumber c then { r with reference := .bare (c :: name) }
    else if c = '\x7b' && name.isEmpty then { r with reference := .braced [] }
    else
      let r := r.refer set given name
      if c = '$' then { r with reference := .bare [] } else r.push c
  | .braced name =>
    if Unicode.isLetterOrNumber c then { r with reference := .braced (c :: name) }
    else if c = '\x7d' then r.refer set given name
    else { r with reference := .braced (c :: name) }

/-- Reads one character outside references, escapes and strong quotes. -/
def Reading.inValue (r : Reading) (c : Char) : Reading :=
  if c = '$' then { r with reference := .bare [] }
  else if r.weak then
    if c = '"' then { r with weak := false }
    else if c = '\\' then { r with escaped := true }
    else r.push c
  else if c = '\'' then { r with strong := true }
  else if c = '"' then { r with weak := true }
  else if c = '\\' then { r with escaped := true }
  else if c = ' ' || c = '\t' then { r with ended := true }
  else r.push c

/-- Reads one character of a value; `none` if it may not stand there. -/
def Reading.step? (set given : Variables) (r : Reading) (c : Char) : Option Reading :=
  if r.commented then some r
  else if r.ended then
    if c = ' ' || c = '\t' then some r
    else if c = '#' then some { r with commented := true }
    else none
  else if r.escaped then (escape? c).map fun e => { r.push e with escaped := false }
  else if r.strong then some (if c = '\'' then { r with strong := false } else r.push c)
  else if r.reference ≠ .outside then some (r.inReference set given c)
  else some (r.inValue c)

/-- The value of a text. Quotes and braces have to be closed. -/
def value? (set given : Variables) (s : List Char) : Option (List Char) := do
  let r ← s.foldlM (Reading.step? set given) {}
  guard (!r.strong && !r.weak)
  match r.reference with
  | .outside => return r.output.reverse
  | .bare name => return (r.refer set given name).output.reverse
  | .braced _ => none

/-! ## Assignments -/

/-- Whether a character may stand in the name of a variable. -/
def isNameChar (c : Char) : Bool := c.isAlphanum || c = '_' || c = '.'

/-- The name that a text begins with, and what follows it. -/
def name? (s : List Char) : Option (List Char × List Char) := do
  let c ← s.head?
  guard (c.isAlpha || c = '_')
  return (s.takeWhile isNameChar, s.dropWhile isNameChar)

/-- What follows an equals sign, blanks before it left out. -/
def afterEquals? (s : List Char) : Option (List Char) :=
  match trimStart s with
  | '=' :: rest => some rest
  | _ => none

/-- The name of a line and the text of its value. A line may begin with the word `export`, which is
a name itself if an equals sign follows it. -/
def cutAssignment? (s : List Char) : Option (List Char × List Char) := do
  let (name, rest) ← name? s
  match afterEquals? rest with
  | some v => return (name, v)
  | none =>
    guard (name = "export".toList)
    let (name, rest) ← name? (trimStart rest)
    return (name, ← afterEquals? rest)

/-- What a line says. -/
inductive LineContent where
  | blank
  | assignment (name value : String)

/-- The content of a line; `none` if it is malformed. -/
def content? (set given : Variables) (text : List Char) : Option LineContent := do
  let s := trimStart (trimEnd text)
  if s.isEmpty || s.head? = some '#' then return .blank
  let (name, v) ← cutAssignment? s
  let v := trimStart v
  let value ← if v.isEmpty || v.head? = some '#' then some [] else value? set given v
  return .assignment (String.ofList name) (String.ofList value)

/-- Reads a file to its end or to the first malformed line. A variable that is set keeps its value.
Every line takes a character at least, so `fuel` is longer than the text. -/
def loadFrom : (fuel : Nat) → (set given : Variables) → List Char → Variables
  | 0, set, _, _ => set
  | fuel + 1, set, given, text =>
    match cutLine text with
    | .finished | .broken => set
    | .line l rest =>
      match content? set given l with
      | none => set
      | some .blank => loadFrom fuel set given rest
      | some (.assignment name value) =>
        let set := if (set.lookup name).isSome then set else (name, value) :: set
        loadFrom fuel set ((name, value) :: given) rest

/-- A variable that is set keeps its value, whatever the lines say. -/
theorem lookup_loadFrom {name value : String} (fuel : Nat) {set given : Variables}
    {text : List Char} (h : set.lookup name = some value) :
    (loadFrom fuel set given text).lookup name = some value := by
  induction fuel generalizing set given text with
  | zero => exact h
  | succ fuel ih =>
      rw [loadFrom]
      split
      · exact h
      · exact h
      · split
        · exact h
        · exact ih h
        · apply ih
          split
          · exact h
          · -- the variable of this line is not set, so it is another one
            rename_i assigned _ _ hunset
            have hother : name ≠ assigned := by
              rintro rfl
              simp [h] at hunset
            rw [List.lookup_cons, beq_false_of_ne hother]
            exact h

/-- Bytes cut after every line break. -/
def physicalLines : List UInt8 → List (List UInt8)
  | [] => []
  | b :: rest =>
    match physicalLines rest with
    | [] => [[b]]
    | l :: ls => if b = 0x0A then [b] :: l :: ls else (b :: l) :: ls

/-- The text of the lines in front of the first one that is not UTF-8. -/
def readable (bytes : List UInt8) : List Char :=
  let decode? (l : List UInt8) : Option String := String.fromUTF8? ⟨l.toArray⟩
  let lines := ((physicalLines bytes).map decode?).takeWhile Option.isSome
  lines.flatMap fun l => (l.getD "").toList

/-- The variables after a file has been read. A byte order mark in front does not count. -/
def load (set : Variables) (bytes : List UInt8) : Variables :=
  let text :=
    match readable bytes with
    | '\ufeff' :: rest => rest
    | cs => cs
  loadFrom (text.length + 1) set [] text

/-- A file only supplies variables that are not set. -/
theorem lookup_load {name value : String} {set : Variables} (bytes : List UInt8)
    (h : set.lookup name = some value) : (load set bytes).lookup name = some value :=
  lookup_loadFrom _ h

end Newsfeed.EnvFile
