import Newsfeed.Time.Fields

/-!
# The stored form of an instant

Documents hold an instant as text: `2020-04-17T19:21:10Z`, with three, six or nine digits of
fraction where they are needed. Reading is more lenient than writing.

* `Instant.writeStored` : the text of an instant.
* `StoredForm.read?` : the instant of a text that has blanks between its parts, short fields, any
  offset, or the word `UTC` in place of it.
-/

namespace Newsfeed

/-- A fraction of a second with the fewest of three, six or nine digits that lose nothing. -/
def writeFraction (nano : Nat) : List Char :=
  if nano = 0 then []
  else if nano % 1000000 = 0 then '.' :: paddedDigits 3 (nano / 1000000)
  else if nano % 1000 = 0 then '.' :: paddedDigits 6 (nano / 1000)
  else '.' :: paddedDigits 9 nano

/-- The stored text of an instant. -/
def Instant.writeStored (t : Instant) : List Char :=
  writeDate t.date ++ 'T' :: writeClock t.second t.isLeap ++
    writeFraction (t.nano % nanosPerSecond) ++ ['Z']

namespace StoredForm

open Reader Text

/-- A character between two fields, blanks allowed in front of it. -/
def separator (c : Char) : Reader Unit := do
  blanks
  char c

/-- The word `UTC` in any case. -/
def utcWord : Reader Int := do
  let _ ← oneOf ['U', 'u']
  let _ ← oneOf ['T', 't']
  let _ ← oneOf ['C', 'c']
  return 0

/-- The zone: `UTC`, `Z` or an offset, in which colons and blanks may part hours from minutes. -/
def zone : Reader Int :=
  orElse utcWord (orElse zulu (offset (skip fun c => c == ':' || isBlank c)))

/-- The fields of a stored instant. -/
def fields : Reader LocalTime := do
  let y ← year
  separator '-'
  let month ← field
  separator '-'
  let day ← field
  let _ ← oneOf ['T', 't', ' ']
  let hour ← field
  separator ':'
  let minute ← field
  separator ':'
  let second ← field
  let nano ← optionalFraction
  blanks
  let ahead ← zone
  blanks
  return { date := ⟨y, month, day⟩, hour, minute, second, nano, offset := ahead }

/-- The instant of a stored text. -/
def read? (s : List Char) : Option Instant := do
  let t ← Reader.all fields s
  t.toInstant?

end StoredForm

end Newsfeed
