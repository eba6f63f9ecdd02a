import Intake.Number.Decimal
import Intake.Time.Calendar

/-!
# Timestamps

A moment in universal time, and its text: date, time, a fraction of as many digits as are exact
(none, three, six or nine), and a mark for the zone.
-/

namespace Intake

/-- A moment: seconds since the start of 1970, and nanoseconds beyond them. A leap second is kept
as a billion nanoseconds or more after the second before it. -/
structure Timestamp where
  seconds : Int
  nanos : Nat
deriving DecidableEq, Repr, Inhabited

namespace Timestamp

def secondsPerDay : Int := 86400

def nanosPerSecond : Nat := 1000000000

/-- The digits of a number, with zeros in front up to a width. -/
def padded (width value : Nat) : List Char :=
  let written := Decimal.digits value
  List.replicate (width - written.length) '0' ++ written

/-- A year of four digits; years before 0 and after 9999 have a sign. -/
def yearText (year : Int) : List Char :=
  if 0 ≤ year ∧ year ≤ 9999 then padded 4 year.natAbs
  else (if year < 0 then '-' else '+') :: padded 4 year.natAbs

/-- A fraction of a second, by the fewest digits of three, six or nine that are exact. -/
def fractionText (nanos : Nat) : List Char :=
  if nanos = 0 then []
  else if nanos % 1000000 = 0 then '.' :: padded 3 (nanos / 1000000)
  else if nanos % 1000 = 0 then '.' :: padded 6 (nanos / 1000)
  else '.' :: padded 9 nanos

def localText (time : Timestamp) : List Char :=
  let date := CalendarDate.ofDay (time.seconds / secondsPerDay)
  let secondOfDay := (time.seconds % secondsPerDay).toNat
  yearText date.year ++ '-' :: padded 2 date.month ++ '-' :: padded 2 date.day ++
    'T' :: padded 2 (secondOfDay / 3600) ++ ':' :: padded 2 (secondOfDay / 60 % 60) ++
    ':' :: padded 2 (secondOfDay % 60 + time.nanos / nanosPerSecond) ++
    fractionText (time.nanos % nanosPerSecond)

/-- The text with the offset of universal time. -/
def offsetText (time : Timestamp) : List Char :=
  time.localText ++ "+00:00".toList

/-- The text with the letter of universal time. -/
def zuluText (time : Timestamp) : List Char :=
  time.localText ++ ['Z']

end Timestamp

end Intake
