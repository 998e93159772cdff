import Newsfeed.Time.Fields

/-!
# The raw publish time

The content source writes publish times in UTC without a zone, as `2020-04-17 19:21:10`.

* `Instant.writeRaw` : the raw text of an instant; fractions of a second are dropped.
* `RawLayout.read?` : reads such a text, lenient about blanks in front of numbers and between date
  and clock, but not after a number within either.
-/

namespace Newsfeed

/-- The raw text of an instant. -/
def Instant.writeRaw (t : Instant) : List Char :=
  writeDate t.date ++ ' ' :: writeClock t.second t.isLeap

namespace RawLayout

open Reader

/-- The fields of a raw publish time. -/
def fields : Reader LocalTime := do
  let y ← year
  char '-'
  let month ← field
  char '-'
  let day ← field
  let hour ← field
  char ':'
  let minute ← field
  char ':'
  let second ← field
  return { date := ⟨y, month, day⟩, hour, minute, second, nano := 0, offset := 0 }

/-- The instant of a raw publish time. -/
def read? (s : List Char) : Option Instant := do
  let t ← Reader.all fields s
  t.toInstant?

end RawLayout

end Newsfeed
