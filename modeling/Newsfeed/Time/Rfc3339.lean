import Newsfeed.Time.Fields

/-!
# RFC 3339 times

The strict form of internet timestamps: `2020-04-17T19:21:10.5+02:00`. Every field has its full
width, and the zone is required.

* `Instant.writeRfc3339` : the text of an instant on a clock some minutes ahead of UTC.
* `Rfc3339.read?` : the instant of such a text.
-/

namespace Newsfeed

/-- The offset from UTC as a sign, hours and minutes. -/
def writeOffset (minutes : Int) : List Char :=
  (if minutes < 0 then '-' else '+') ::
    twoDigits (minutes.natAbs / 60) ++ ':' :: twoDigits (minutes.natAbs % 60)

/-- The text of an instant, its fraction dropped, on a clock that is `offset` minutes ahead of
UTC. -/
def Instant.writeRfc3339 (t : Instant) (offset : Int) : List Char :=
  let here := t.unixSeconds + offset * 60
  writeDate (Date.ofDayNumber (here / secondsPerDay)) ++
    'T' :: writeClock (here % secondsPerDay).toNat t.isLeap ++ writeOffset offset

namespace Rfc3339

open Reader

/-- The fields of a strict timestamp. -/
def fields : Reader LocalTime := do
  let y ← digits 4 4
  char '-'
  let month ← digits 2 2
  char '-'
  let day ← digits 2 2
  let _ ← oneOf ['T', 't', ' ']
  let hour ← digits 2 2
  char ':'
  let minute ← digits 2 2
  char ':'
  let second ← digits 2 2
  let nano ← optionalFraction
  let ahead ← orElse zulu (offset (char ':'))
  return { date := ⟨y, month, day⟩, hour, minute, second, nano, offset := ahead }

/-- The instant of a strict timestamp. -/
def read? (s : List Char) : Option Instant := do
  let t ← Reader.all fields s
  t.toInstant?

end Rfc3339

end Newsfeed
