import Intake.Proofs.Number.Digits
import Intake.Proofs.Text.Classes
import Intake.Proofs.Time.Calendar
import Intake.Time.Reader

/-!
# Timestamps read back

The text of a moment reads back as the moment. Every number of the text is padded to at least as
many digits as the reader takes, and a year of more digits than four has a sign, after which the
reader takes all digits. Every moment that is read at all is one that reads back.
-/

namespace Intake

namespace Timestamp

open Decimal

/-- A moment that a clock can show: its nanoseconds lie within the second, or within the leap
second that follows the last second of a minute, and its year can be written. -/
structure Valid (time : Timestamp) : Prop where
  nanos : time.nanos < nanosPerSecond ∨
    (time.nanos < 2 * nanosPerSecond ∧ time.seconds % 60 = 59)
  year : hasYear (CalendarDate.ofDay (time.seconds / secondsPerDay)).year = true

instance (time : Timestamp) : Decidable time.Valid :=
  decidable_of_iff (_ ∧ _) ⟨fun both => ⟨both.1, both.2⟩, fun valid => ⟨valid.nanos, valid.year⟩⟩

theorem isDigit_of_mem_padded {width value : Nat} {digit : Char}
    (member : digit ∈ padded width value) : digit.isDigit = true := by
  rcases List.mem_append.1 member with zero | written
  · rw [List.eq_of_mem_replicate zero]
    rfl
  · exact isDigit_of_mem_digits written

theorem padded_ne_nil (width value : Nat) : padded width value ≠ [] := by
  simp [padded, digits_ne_nil]

@[simp] theorem digitsValue_padded (width value : Nat) :
    Numeral.digitsValue (padded width value) = value := by
  rw [padded, digitsValue_zeros_append, digitsValue_digits]

theorem length_padded {width value : Nat} (positive : 0 < width) (bound : value < tenTo width) :
    (padded width value).length = width := by
  have written := length_digits_le positive bound
  simp only [padded, List.length_append, List.length_replicate]
  omega

/-- A run of digits is taken as a whole if the limit ends it or something else follows. -/
theorem takeNumber?_run {limit : Nat} {run rest : List Char} (nonempty : run ≠ [])
    (inside : ∀ digit ∈ run, digit.isDigit = true) (within : run.length ≤ limit)
    (ends : run.length = limit ∨ Text.Stops Char.isDigit rest) :
    takeNumber? limit (run ++ rest) = some (Numeral.digitsValue run, rest) := by
  have stops : Text.Stops Char.isDigit (rest.take (limit - run.length)) := by
    rcases ends with full | stops
    · simp [full, Text.stops_nil]
    · exact stops.take _
  have taken : ((run ++ rest).take limit).takeWhile Char.isDigit = run := by
    rw [List.take_append, List.take_of_length_le within]
    exact Text.takeWhile_run inside stops
  simp [takeNumber?, taken, nonempty]

theorem takeNumber?_padded {width value : Nat} (positive : 0 < width)
    (bound : value < tenTo width) (rest : List Char) :
    takeNumber? width (padded width value ++ rest) = some (value, rest) := by
  have length := length_padded positive bound
  rw [takeNumber?_run (padded_ne_nil width value) (fun _ => isDigit_of_mem_padded) length.le
    (Or.inl length), digitsValue_padded]

theorem trimStart_padded_append (width value : Nat) (rest : List Char) :
    Text.trimStart (padded width value ++ rest) = padded width value ++ rest :=
  Text.trimStart_of_stops <| Text.stops_append (padded_ne_nil width value)
    (fun _ member => Character.not_isBlank_of_isDigit (isDigit_of_mem_padded member)) rest

theorem takePair?_padded {value : Nat} (bound : value < 100) (rest : List Char) :
    takePair? (padded 2 value ++ rest) = some (value, rest) := by
  rw [takePair?, trimStart_padded_append, takeNumber?_padded (by decide) bound]

theorem expect?_cons {expected : Char} (visible : Character.isBlank expected = false)
    (rest : List Char) : expect? expected (expected :: rest) = some rest := by
  rw [expect?, Text.trimStart_of_stops (Text.stops_cons visible)]
  simp

/-- A year is read up to the dash behind it. -/
theorem takeYear?_yearText (year : Int) (rest : List Char) :
    takeYear? (yearText year ++ '-' :: rest) = some (year, '-' :: rest) := by
  have stops : Text.Stops Char.isDigit ('-' :: rest) := Text.stops_cons rfl
  have signed : takeNumber? (padded 4 year.natAbs ++ '-' :: rest).length
      (padded 4 year.natAbs ++ '-' :: rest) = some (year.natAbs, '-' :: rest) := by
    rw [takeNumber?_run (padded_ne_nil _ _) (fun _ => isDigit_of_mem_padded) (by simp)
      (Or.inr stops), digitsValue_padded]
  by_cases short : 0 ≤ year ∧ year ≤ 9999
  · have taken := takeNumber?_padded (show 0 < 4 by decide)
      (show year.natAbs < 10000 by omega) ('-' :: rest)
    have digit : ∀ first others, padded 4 year.natAbs ++ '-' :: rest = first :: others →
        first.isDigit = true := by
      intro first others equal
      cases written : padded 4 year.natAbs with
      | nil => exact absurd written (padded_ne_nil _ _)
      | cons head tail =>
        rw [written] at equal
        refine @isDigit_of_mem_padded 4 year.natAbs first ?_
        rw [written, (List.cons.inj equal).1]
        exact List.mem_cons_self
    rw [yearText, if_pos short, takeYear?, trimStart_padded_append]
    split
    · next others equal => exact absurd (digit _ _ equal) (by decide)
    · next others equal => exact absurd (digit _ _ equal) (by decide)
    · rw [taken]
      simp
      omega
  · rw [yearText, if_neg short, takeYear?]
    by_cases negative : year < 0 <;>
      simp only [negative, ↓reduceIte, List.cons_append,
        Text.trimStart_of_stops (Text.stops_cons (show Character.isBlank '-' = false from rfl)),
        Text.trimStart_of_stops (Text.stops_cons (show Character.isBlank '+' = false from rfl)),
        signed, Option.map_some, Option.some.injEq, Prod.mk.injEq, and_true] <;>
      omega

/-- A fraction of three, six or nine digits is read up to the letter of the zone. -/
theorem takeFraction?_padded {width value : Nat} (positive : 0 < width) (short : width ≤ 9)
    (bound : value < tenTo width) :
    takeFraction? ('.' :: (padded width value ++ ['Z'])) =
      some (value * tenTo (9 - width), ['Z']) := by
  have length := length_padded positive bound
  have taken : takeNumber? 9 (padded width value ++ ['Z']) = some (value, ['Z']) := by
    rw [takeNumber?_run (padded_ne_nil _ _) (fun _ => isDigit_of_mem_padded) (by omega)
      (Or.inr (Text.stops_cons rfl)), digitsValue_padded]
  simp [takeFraction?, taken, length]

theorem takeFraction?_fractionText {nanos : Nat} (bound : nanos < nanosPerSecond) :
    takeFraction? (fractionText nanos ++ ['Z']) = some (nanos, ['Z']) := by
  unfold nanosPerSecond at bound
  rw [fractionText]
  split
  · next none => simp [takeFraction?, none]
  · split
    · next thousands =>
      rw [List.cons_append, takeFraction?_padded (by decide) (by decide)
        (show _ < 1000 by omega)]
      simp only [Option.some.injEq, Prod.mk.injEq, and_true]
      change nanos / 1000000 * 1000000 = nanos
      omega
    · split
      · next thousands =>
        rw [List.cons_append, takeFraction?_padded (by decide) (by decide)
          (show _ < 1000000 by omega)]
        simp only [Option.some.injEq, Prod.mk.injEq, and_true]
        change nanos / 1000 * 1000 = nanos
        omega
      · rw [List.cons_append, takeFraction?_padded (by decide) (by decide) bound]
        simp [tenTo]

def secondOfDay (time : Timestamp) : Nat :=
  (time.seconds % secondsPerDay).toNat

/-- The second that is written for a moment; a leap second is the sixtieth of its minute. -/
def writtenSecond (time : Timestamp) : Nat :=
  time.secondOfDay % 60 + time.nanos / nanosPerSecond

/-- The hour, the minute and the second that are written are those of a day, and only a leap
second is written as 60. -/
theorem clock_bounds {time : Timestamp} (valid : time.Valid) :
    time.secondOfDay / 3600 < 24 ∧ time.writtenSecond ≤ 60 ∧
      time.writtenSecond / 60 = time.nanos / nanosPerSecond := by
  have nanos := valid.nanos
  unfold nanosPerSecond at nanos
  unfold writtenSecond secondOfDay secondsPerDay nanosPerSecond
  omega

/-- A day and the hour, minute and second of it count up to the moment. -/
theorem seconds_of_clock {time : Timestamp} (valid : time.Valid) :
    time.seconds / secondsPerDay * secondsPerDay +
      ((time.secondOfDay / 3600 : Nat) * 3600 + (time.secondOfDay / 60 % 60 : Nat) * 60 +
        (time.writtenSecond - time.writtenSecond / 60 : Nat)) - 0 = time.seconds := by
  have leap := (clock_bounds valid).2.2
  rw [leap]
  unfold writtenSecond secondOfDay secondsPerDay
  omega

/-- A moment reads back from its text. -/
theorem read?_zuluText {time : Timestamp} (valid : time.Valid) :
    read? time.zuluText = some time := by
  have months := CalendarDate.month_ofDay (time.seconds / secondsPerDay)
  have days := CalendarDate.day_ofDay_le (time.seconds / secondsPerDay)
  have dateValid := CalendarDate.isValid_ofDay (time.seconds / secondsPerDay)
  have dayBack := CalendarDate.toDay_ofDay (time.seconds / secondsPerDay)
  have year := valid.year
  obtain ⟨hourBound, secondBound, leap⟩ := clock_bounds valid
  have secondsBack := seconds_of_clock valid
  have nanosBack := Nat.mod_add_div' time.nanos nanosPerSecond
  have fractionBound : time.nanos % nanosPerSecond < nanosPerSecond := Nat.mod_lt _ (by decide)
  have text : time.zuluText =
      let date := CalendarDate.ofDay (time.seconds / secondsPerDay)
      yearText date.year ++ '-' :: (padded 2 date.month ++ '-' :: (padded 2 date.day ++
        'T' :: (padded 2 (time.secondOfDay / 3600) ++
          ':' :: (padded 2 (time.secondOfDay / 60 % 60) ++ ':' :: (padded 2 time.writtenSecond ++
            (fractionText (time.nanos % nanosPerSecond) ++ ['Z'])))))) := by
    simp only [zuluText, localText, List.append_assoc, List.cons_append]
    rfl
  rw [text]
  generalize dateEq : CalendarDate.ofDay (time.seconds / secondsPerDay) = date at *
  have dash : Character.isBlank '-' = false := rfl
  have colon : Character.isBlank ':' = false := rfl
  have zone : takeZone? (Text.trimStart ['Z']) = some (0, []) := rfl
  have month := takePair?_padded (show date.month < 100 by omega)
  have day := takePair?_padded (show date.day < 100 by omega)
  have hour := takePair?_padded (show time.secondOfDay / 3600 < 100 by omega)
  have minute := takePair?_padded (show time.secondOfDay / 60 % 60 < 100 by omega)
  have second := takePair?_padded (show time.writtenSecond < 100 by omega)
  have minuteBound : time.secondOfDay / 60 % 60 < 60 := Nat.mod_lt _ (by decide)
  -- One part after the other is read, each with all that is written behind it.
  refine Option.bind_eq_some_iff.2 ⟨_, takeYear?_yearText _ _, ?_⟩
  refine Option.bind_eq_some_iff.2 ⟨_, expect?_cons dash _, ?_⟩
  refine Option.bind_eq_some_iff.2 ⟨_, month _, ?_⟩
  refine Option.bind_eq_some_iff.2 ⟨_, expect?_cons dash _, ?_⟩
  refine Option.bind_eq_some_iff.2 ⟨_, day _, ?_⟩
  refine Option.bind_eq_some_iff.2 ⟨_, rfl, ?_⟩
  refine Option.bind_eq_some_iff.2 ⟨_, hour _, ?_⟩
  refine Option.bind_eq_some_iff.2 ⟨_, expect?_cons colon _, ?_⟩
  refine Option.bind_eq_some_iff.2 ⟨_, minute _, ?_⟩
  refine Option.bind_eq_some_iff.2 ⟨_, expect?_cons colon _, ?_⟩
  refine Option.bind_eq_some_iff.2 ⟨_, second _, ?_⟩
  refine Option.bind_eq_some_iff.2 ⟨_, takeFraction?_fractionText fractionBound, ?_⟩
  refine Option.bind_eq_some_iff.2 ⟨(0, []), zone, ?_⟩
  simp only [dayBack, secondsBack, dateEq, year, Bool.and_self]
  rw [if_pos ⟨rfl, dateValid, hourBound, minuteBound, secondBound⟩, if_pos trivial, leap, nanosBack]
  rfl

/-- A number that was taken has at most as many digits as were allowed, and is below their power
of ten. -/
theorem takeNumber?_bounds {limit value : Nat} {text rest : List Char}
    (taken : takeNumber? limit text = some (value, rest)) :
    text.length - rest.length ≤ limit ∧ value < tenTo (text.length - rest.length) := by
  rw [takeNumber?] at taken
  generalize run : (text.take limit).takeWhile Char.isDigit = digits at taken
  have short : digits.length ≤ (text.take limit).length := by
    rw [← run]
    exact (List.takeWhile_sublist _).length_le
  rw [List.length_take] at short
  split at taken
  · cases taken
  · cases taken
    have count : text.length - (text.drop digits.length).length = digits.length := by
      rw [List.length_drop]
      omega
    rw [count]
    refine ⟨by omega, digitsValue_lt ?_⟩
    intro digit member
    rw [← run] at member
    exact List.mem_takeWhile_imp member

theorem takeFraction?_lt {nanos : Nat} {text rest : List Char}
    (taken : takeFraction? text = some (nanos, rest)) : nanos < nanosPerSecond := by
  unfold takeFraction? at taken
  split at taken
  · next digits =>
    obtain ⟨⟨value, after⟩, number, scaled⟩ := Option.bind_eq_some_iff.1 taken
    obtain ⟨short, below⟩ := takeNumber?_bounds number
    cases scaled
    generalize digits.length - after.length = count at *
    have positive : 0 < tenTo (9 - count) := Nat.pow_pos (by decide)
    calc value * tenTo (9 - count)
      _ < tenTo count * tenTo (9 - count) := Nat.mul_lt_mul_of_pos_right below positive
      _ = tenTo (count + (9 - count)) := (Nat.pow_add 10 count (9 - count)).symm
      _ = nanosPerSecond := by rw [Nat.add_sub_cancel' short]; rfl
  · cases taken
    decide

/-- A zone is whole minutes ahead. -/
theorem takeZone?_minutes {ahead : Int} {text rest : List Char}
    (taken : takeZone? text = some (ahead, rest)) : ahead % 60 = 0 := by
  unfold takeZone? at taken
  split at taken
  · cases taken
    rfl
  · cases taken
    rfl
  · split at taken
    · cases taken
      rfl
    · split at taken
      · obtain ⟨⟨hours, afterHours⟩, -, taken⟩ := Option.bind_eq_some_iff.1 taken
        obtain ⟨⟨minutes, after⟩, -, taken⟩ := Option.bind_eq_some_iff.1 taken
        simp only at taken
        split at taken
        · cases taken
          split <;> omega
        · cases taken
      · cases taken
  · cases taken

/-- Whichever letter stands between the date and the time of day, what follows is the time. -/
theorem exists_of_letter {text : List Char} {clock : List Char → Option Timestamp}
    {time : Timestamp}
    (read : (match text with
      | 'T' :: rest | 't' :: rest | ' ' :: rest => (some rest).bind clock
      | _ => none) = some time) : ∃ rest, clock rest = some time := by
  split at read
  · exact ⟨_, read⟩
  · exact ⟨_, read⟩
  · exact ⟨_, read⟩
  · cases read

/-- Every moment that is read is one that a clock can show: a leap second is read only as the
sixtieth of a minute, and zones move a moment by whole minutes. -/
theorem valid_of_read? {text : List Char} {time : Timestamp} (read : read? text = some time) :
    time.Valid := by
  unfold read? at read
  obtain ⟨⟨year, afterYear⟩, -, read⟩ := Option.bind_eq_some_iff.1 read
  obtain ⟨afterDash, -, read⟩ := Option.bind_eq_some_iff.1 read
  obtain ⟨⟨month, afterMonth⟩, -, read⟩ := Option.bind_eq_some_iff.1 read
  obtain ⟨afterDash, -, read⟩ := Option.bind_eq_some_iff.1 read
  obtain ⟨⟨day, afterDay⟩, -, read⟩ := Option.bind_eq_some_iff.1 read
  obtain ⟨clock, read⟩ := exists_of_letter read
  obtain ⟨⟨hour, afterHour⟩, -, read⟩ := Option.bind_eq_some_iff.1 read
  obtain ⟨afterColon, -, read⟩ := Option.bind_eq_some_iff.1 read
  obtain ⟨⟨minute, afterMinute⟩, -, read⟩ := Option.bind_eq_some_iff.1 read
  obtain ⟨afterColon, -, read⟩ := Option.bind_eq_some_iff.1 read
  obtain ⟨⟨second, afterSecond⟩, -, read⟩ := Option.bind_eq_some_iff.1 read
  obtain ⟨⟨fraction, afterFraction⟩, fractionTaken, read⟩ := Option.bind_eq_some_iff.1 read
  obtain ⟨⟨ahead, afterZone⟩, zoneTaken, read⟩ := Option.bind_eq_some_iff.1 read
  have nanos := takeFraction?_lt fractionTaken
  have minutes := takeZone?_minutes zoneTaken
  simp only at read
  split at read
  · next parts =>
    split at read
    · next inRange =>
      cases read
      constructor
      · have leap : second / 60 = 0 ∨ (second / 60 = 1 ∧ second - second / 60 = 59) := by omega
        unfold nanosPerSecond at *
        unfold secondsPerDay
        rcases leap with none | ⟨one, last⟩
        · left
          rw [none]
          omega
        · right
          rw [one] at last
          simp only [one, last]
          omega
      · exact (Bool.and_eq_true_iff.1 inRange).2
    · cases read
  · cases read

end Timestamp

end Intake
