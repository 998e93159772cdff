import Newsfeed.Text.Reader

/-!
# Blanks, comments and strings of TOML

* `lineEnd`, `trivia` : what may stand after a value on a line, and between the elements of an
  array.
* `basicBody?`, `literalBody?` : strings on one line, with and without escapes.
* `basicLines?`, `literalLines?` : strings over several lines.
-/

namespace Newsfeed.Toml

open Reader

/-! ## Blanks and comments -/

/-- A blank within a line. -/
def isGap (c : Char) : Bool := c = ' ' || c = '\t'

/-- Whether a character may stand in comments and literal strings: a tab, or no control. -/
def isPlain (c : Char) : Bool := c = '\t' || (0x20 ≤ c.toNat && c.toNat ≠ 0x7F)

/-- The rest of a text after a line break, if it begins with one. -/
def afterBreak? : List Char → Option (List Char)
  | '\n' :: rest => some rest
  | '\r' :: '\n' :: rest => some rest
  | _ => none

/-- Skips blanks within a line. -/
def gap : Reader Unit := skip isGap

/-- A comment, if one begins here. -/
def comment : Reader Unit := fun s =>
  match s with
  | '#' :: rest => some ((), rest.dropWhile isPlain)
  | _ => some ((), s)

/-- The end of a line: blanks, perhaps a comment, and a line break or the end of the text. -/
def lineEnd : Reader Unit := do
  gap
  comment
  fun s => if s = [] then some ((), []) else (afterBreak? s).map fun rest => ((), rest)

/-- Takes the same step again and again, until it says that it is done. Each step but the last
takes a character at least, so `fuel` is longer than the text. -/
def stepping {σ : Type} (step : σ → Reader (Option σ)) : (fuel : Nat) → σ → Reader σ
  | 0, _ => fail
  | fuel + 1, a => do
    match ← step a with
    | some a => stepping step fuel a
    | none => return a

/-- Takes a step until it says that it is done. -/
def untilDone {σ : Type} (step : σ → Reader (Option σ)) (a : σ) : Reader σ := fun s =>
  stepping step (s.length + 1) a s

/-- One stretch of blanks, comments and line breaks up to the next line. -/
def triviaStep (_ : Unit) : Reader (Option Unit) := do
  gap
  comment
  fun s =>
    match afterBreak? s with
    | some rest => some (some (), rest)
    | none => some (none, s)

/-- Blanks, comments and line breaks, as many as there are. -/
def trivia : Reader Unit := untilDone triviaStep ()

/-! ## Escapes -/

/-- The value of a hexadecimal digit in either case. -/
def hexValue? (c : Char) : Option Nat :=
  if c.isDigit then some (c.toNat - '0'.toNat)
  else if 'a' ≤ c ∧ c ≤ 'f' then some (c.toNat - 'a'.toNat + 10)
  else if 'A' ≤ c ∧ c ≤ 'F' then some (c.toNat - 'A'.toNat + 10)
  else none

/-- The character with a code point in hexadecimal digits. -/
def codePoint? (ds : List Char) : Option Char := do
  let n ← ds.foldlM (fun n d => (hexValue? d).map (16 * n + ·)) 0
  if Nat.isValidChar n then some (Char.ofNat n) else none

/-- The character of an escape of one letter. -/
def escape? : Char → Option Char
  | 'b' => some '\x08'
  | 't' => some '\t'
  | 'n' => some '\n'
  | 'f' => some '\x0c'
  | 'r' => some '\r'
  | 'e' => some '\x1b'
  | '"' => some '"'
  | '\\' => some '\\'
  | _ => none

/-- How many digits the code point of an escape has; none for other escapes. -/
def escapeWidth : Char → Nat
  | 'x' => 2
  | 'u' => 4
  | 'U' => 8
  | _ => 0

/-- The character of an escape, its backslash already taken, and how many characters the escape
has. -/
def escaped? (s : List Char) : Option (Char × Nat) :=
  match s with
  | [] => none
  | c :: rest =>
    match escapeWidth c with
    | 0 => (escape? c).map fun e => (e, 1)
    | w =>
      if (rest.take w).length = w then (codePoint? (rest.take w)).map fun e => (e, w + 1)
      else none

/-! ## Strings -/

/-- The characters of a string with escapes up to its closing quote, and what follows. The first
`skipped` characters have been read as part of an escape. -/
def basicBody? : (skipped : Nat) → List Char → Option (List Char × List Char)
  | _, [] => none
  | n + 1, _ :: rest => basicBody? n rest
  | 0, c :: rest =>
    if c = '"' then some ([], rest)
    else if c = '\\' then do
      let (e, width) ← escaped? rest
      let (cs, rest) ← basicBody? width rest
      return (e :: cs, rest)
    else if isPlain c then do
      let (cs, rest) ← basicBody? 0 rest
      return (c :: cs, rest)
    else none

/-- The characters of a string without escapes. -/
def literalBody? (s : List Char) : Option (List Char × List Char) :=
  let cs := s.takeWhile fun c => c ≠ '\'' ∧ isPlain c
  match s.drop cs.length with
  | '\'' :: rest => some (cs, rest)
  | _ => none

/-- Quotes at a place where at least three stand: up to two of them belong to the string and the
last three close it. -/
def closing? (quote : Char) (s : List Char) : Option (List Char × List Char) :=
  let n := (s.takeWhile (· = quote)).length
  if 3 ≤ n ∧ n ≤ 5 then some (List.replicate (n - 3) quote, s.drop n) else none

/-- Whether three quotes stand here. -/
def closesHere (quote : Char) (s : List Char) : Bool := s.take 3 == List.replicate 3 quote

/-- Whether a backslash ends a line: only blanks come before the line break. -/
def endsLine (s : List Char) : Bool := (afterBreak? (s.dropWhile isGap)).isSome

/-- The characters of a string with escapes over several lines. A carriage return may only stand in
a line break. After a backslash at the end of a line, blanks and line breaks are passed over. -/
def basicLines? : (skipped : Nat) → (folding : Bool) → List Char → Option (List Char × List Char)
  | _, _, [] => none
  | n + 1, folding, _ :: rest => basicLines? n folding rest
  | 0, folding, c :: rest =>
    if closesHere '"' (c :: rest) then closing? '"' (c :: rest)
    else if c = '\r' && rest.head? ≠ some '\n' then none
    else if folding && (isGap c || c = '\r' || c = '\n') then basicLines? 0 true rest
    else if c = '\\' then
      if endsLine rest then basicLines? 0 true rest
      else do
        let (e, width) ← escaped? rest
        let (cs, rest) ← basicLines? width false rest
        return (e :: cs, rest)
    else if c = '\r' || c = '\n' || isPlain c then do
      let (cs, rest) ← basicLines? 0 false rest
      return (c :: cs, rest)
    else none

/-- The characters of a string without escapes over several lines. -/
def literalLines? : List Char → Option (List Char × List Char)
  | [] => none
  | c :: rest =>
    if closesHere '\'' (c :: rest) then closing? '\'' (c :: rest)
    else if c = '\r' && rest.head? ≠ some '\n' then none
    else if c = '\r' || c = '\n' || isPlain c then do
      let (cs, rest) ← literalLines? rest
      return (c :: cs, rest)
    else none

/-- A line break right after the opening quotes does not count. -/
def dropBreak (s : List Char) : List Char := (afterBreak? s).getD s

/-- A string on one line. -/
def shortQuoted : Reader String := fun s =>
  match s with
  | '"' :: rest => (basicBody? 0 rest).map fun r => (String.ofList r.1, r.2)
  | '\'' :: rest => (literalBody? rest).map fun r => (String.ofList r.1, r.2)
  | _ => none

/-- A string of any kind. -/
def quoted : Reader String := fun s =>
  if closesHere '"' s then
    (basicLines? 0 false (dropBreak (s.drop 3))).map fun r => (String.ofList r.1, r.2)
  else if closesHere '\'' s then
    (literalLines? (dropBreak (s.drop 3))).map fun r => (String.ofList r.1, r.2)
  else shortQuoted s

end Newsfeed.Toml
