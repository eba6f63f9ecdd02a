import Intake.Number.Numeral
import Intake.Time.Timestamp

/-!
# Reading timestamps

Timestamps are read a little more freely than they are written: white space may stand between the
parts, numbers may miss leading zeros, the date and the time may be separated by `T`, `t` or a
space, and the zone may be any offset, `Z` or `UTC`. The result is moved to universal time.
-/

namespace Intake

namespace Timestamp

/-- ASCII digits at the start of a text, at most `limit` of them and at least one, and the rest. -/
def takeNumber? (limit : Nat) (text : List Char) : Option (Nat × List Char) :=
  let digits := (text.take limit).takeWhile Char.isDigit
  if digits = [] then none else some (Numeral.digitsValue digits, text.drop digits.length)

/-- A number of at most two digits after white space. -/
def takePair? (text : List Char) : Option (Nat × List Char) :=
  takeNumber? 2 (Text.trimStart text)

/-- The text after white space and one expected character. -/
def expect? (expected : Char) (text : List Char) : Option (List Char) :=
  match Text.trimStart text with
  | [] => none
  | character :: rest => if character = expected then some rest else none

/-- A year: at most four digits, or any number of them after a sign. -/
def takeYear? (text : List Char) : Option (Int × List Char) :=
  match Text.trimStart text with
  | '-' :: rest => (takeNumber? rest.length rest).map fun read => (-(read.1 : Int), read.2)
  | '+' :: rest => (takeNumber? rest.length rest).map fun read => ((read.1 : Int), read.2)
  | rest => (takeNumber? 4 rest).map fun read => ((read.1 : Int), read.2)

/-- The nanoseconds of a fraction, when there is one; digits after the ninth are dropped. -/
def takeFraction? : List Char → Option (Nat × List Char)
  | '.' :: rest => do
    let (value, after) ← takeNumber? 9 rest
    return (value * tenTo (9 - (rest.length - after.length)), after.dropWhile Char.isDigit)
  | rest => some (0, rest)

/-- The two digits at the start of a text, and the rest. -/
def takeTwoDigits? : List Char → Option (Nat × List Char)
  | first :: second :: rest =>
    if first.isDigit && second.isDigit then
      some (Numeral.digitsValue [first, second], rest)
    else none
  | _ => none

/-- The seconds that a zone is ahead of universal time, and the rest. -/
def takeZone? (text : List Char) : Option (Int × List Char) :=
  match text with
  | 'Z' :: rest | 'z' :: rest => some (0, rest)
  | first :: second :: third :: rest =>
    if first.toLower = 'u' ∧ second.toLower = 't' ∧ third.toLower = 'c' then some (0, rest)
    else if first = '+' ∨ first = '-' ∨ first = '−' then do
      let (hours, afterHours) ← takeTwoDigits? (second :: third :: rest)
      let separated := afterHours.dropWhile fun character =>
        character = ':' ∨ Character.isBlank character
      let (minutes, after) ← takeTwoDigits? separated
      let ahead : Int := hours * 3600 + minutes * 60
      if minutes < 60 ∧ ahead < 86400 then
        return (if first = '+' then ahead else -ahead, after)
      else none
    else none
  | _ => none

/-- Whether a year can be the year of a moment. -/
def hasYear (year : Int) : Bool :=
  -262143 ≤ year && year ≤ 262142

/-- The moment that a text names. Its year must be in range where it is read and in universal
time. -/
def read? (text : List Char) : Option Timestamp := do
  let (year, rest) ← takeYear? text
  let rest ← expect? '-' rest
  let (month, rest) ← takePair? rest
  let rest ← expect? '-' rest
  let (day, rest) ← takePair? rest
  let rest ←
    match rest with
    | 'T' :: rest | 't' :: rest | ' ' :: rest => some rest
    | _ => none
  let (hour, rest) ← takePair? rest
  let rest ← expect? ':' rest
  let (minute, rest) ← takePair? rest
  let rest ← expect? ':' rest
  let (second, rest) ← takePair? rest
  let (fraction, rest) ← takeFraction? rest
  let (ahead, rest) ← takeZone? (Text.trimStart rest)
  let date : CalendarDate := ⟨year, month, day⟩
  if Text.isBlankText rest ∧ date.isValid ∧ hour < 24 ∧ minute < 60 ∧ second ≤ 60 then
    let leap := second / 60
    let secondOfDay : Int := hour * 3600 + minute * 60 + (second - leap : Nat)
    let seconds := date.toDay * secondsPerDay + secondOfDay - ahead
    if hasYear year && hasYear (CalendarDate.ofDay (seconds / secondsPerDay)).year then
      return ⟨seconds, fraction + leap * nanosPerSecond⟩
    else none
  else none

end Timestamp

end Intake
