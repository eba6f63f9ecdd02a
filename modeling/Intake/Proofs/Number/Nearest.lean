import Intake.Proofs.Value.Retyping

/-!
# Integers as floating point numbers

Comparisons of numbers go through floating point numbers, which have 53 significant bits. An
integer becomes the nearest whole number of so many bits. That keeps the order of integers, leaves
them as they are up to `2 ^ 53`, and moves those of a 64-bit word by no more than 512. So integers
that are far apart or small are compared exactly, and others may be taken for equal.
-/

namespace Intake

section Quotient

variable {halfWay : HalfWay} {numerator other denominator : Nat}

theorem HalfWay.step_le (halfWay : HalfWay) (below : Nat) : halfWay.step below ≤ 1 := by
  cases halfWay with
  | toEven => exact Nat.le_of_lt_succ (Nat.mod_lt _ (by decide))
  | up => exact Nat.le_refl 1

theorem le_roundQuotient :
    numerator / denominator ≤ roundQuotient halfWay numerator denominator := by
  unfold roundQuotient
  simp only
  split_ifs <;> omega

theorem roundQuotient_le :
    roundQuotient halfWay numerator denominator ≤ numerator / denominator + 1 := by
  have step := halfWay.step_le (numerator / denominator)
  unfold roundQuotient
  simp only
  split_ifs <;> omega

theorem roundQuotient_mono (le : numerator ≤ other) :
    roundQuotient halfWay numerator denominator ≤ roundQuotient halfWay other denominator := by
  rcases Nat.lt_or_eq_of_le (Nat.div_le_div_right (c := denominator) le) with below | same
  · exact Nat.le_trans roundQuotient_le (Nat.le_trans below le_roundQuotient)
  · -- With the same quotient the larger remainder is rounded up if the smaller one is.
    have first := Nat.div_add_mod numerator denominator
    have second := Nat.div_add_mod other denominator
    rw [← same] at second
    have remainders : numerator % denominator ≤ other % denominator := by omega
    have step := halfWay.step_le (numerator / denominator)
    unfold roundQuotient
    simp only [← same]
    split_ifs <;> omega

/-- Common factors do not count. -/
theorem roundQuotient_mul_mul {factor : Nat} (positive : 0 < factor) :
    roundQuotient halfWay (numerator * factor) (denominator * factor) =
      roundQuotient halfWay numerator denominator := by
  have half (first second : Nat) : 2 * (first * factor) < second * factor ↔ 2 * first < second := by
    rw [← Nat.mul_assoc, Nat.mul_lt_mul_right positive]
  have overHalf (first second : Nat) :
      second * factor < 2 * (first * factor) ↔ second < 2 * first := by
    rw [← Nat.mul_assoc, Nat.mul_lt_mul_right positive]
  simp only [roundQuotient, Nat.mul_div_mul_right _ _ positive, Nat.mul_mod_mul_right, half,
    overHalf]

/-- A quotient is moved by half at most. -/
theorem roundQuotient_error (positive : 0 < denominator) :
    2 * (roundQuotient halfWay numerator denominator * denominator) ≤
        2 * numerator + denominator ∧
      2 * numerator ≤ 2 * (roundQuotient halfWay numerator denominator * denominator) +
        denominator := by
  have whole := Nat.div_add_mod' numerator denominator
  have left := Nat.mod_lt numerator positive
  have step := halfWay.step_le (numerator / denominator)
  generalize found : numerator / denominator = quotient at whole step
  have up : (quotient + 1) * denominator = quotient * denominator + denominator :=
    Nat.succ_mul _ _
  unfold roundQuotient
  simp only [found]
  split_ifs with below above
  · omega
  · omega
  · obtain stays | goes : halfWay.step quotient = 0 ∨ halfWay.step quotient = 1 := by omega
    · rw [stays, Nat.add_zero]
      omega
    · rw [goes]
      omega

end Quotient

namespace Binary64

/-- The distance of the whole numbers with 53 significant bits around a magnitude. -/
def wholeGrid (magnitude : Nat) : Nat :=
  twoTo (magnitude.log2 - 52)

/-- The whole number with 53 significant bits nearest to a magnitude. -/
def nearestWhole (magnitude : Nat) : Nat :=
  roundQuotient .toEven magnitude (wholeGrid magnitude) * wholeGrid magnitude

theorem twoTo_pos (power : Nat) : 0 < twoTo power :=
  Nat.two_pow_pos power

theorem unitsPerOne_pos : 0 < unitsPerOne :=
  twoTo_pos 1074

theorem twoTo_le {power other : Nat} (le : power ≤ other) : twoTo power ≤ twoTo other :=
  Nat.pow_le_pow_right (by decide) le

theorem wholeGrid_pos (magnitude : Nat) : 0 < wholeGrid magnitude :=
  twoTo_pos _

theorem twoTo_add (first second : Nat) : twoTo (first + second) = twoTo first * twoTo second :=
  Nat.pow_add 2 first second

theorem infinityUnits_eq : infinityUnits = twoTo 1024 * unitsPerOne := by
  have powers : 2098 = 1024 + 1074 := by decide
  rw [infinityUnits, unitsPerOne, powers, twoTo_add]

section Whole

variable {magnitude other factor : Nat}

theorem nearestWhole_mul (factor : Nat) (same : factor * wholeGrid magnitude = magnitude) :
    nearestWhole magnitude = magnitude := by
  have rounded := roundQuotient_mul_self .toEven factor _ (wholeGrid_pos magnitude)
  rw [same] at rounded
  rw [nearestWhole, rounded, same]

theorem nearestWhole_le_mul (le : magnitude ≤ factor * wholeGrid magnitude) :
    nearestWhole magnitude ≤ factor * wholeGrid magnitude := by
  refine Nat.mul_le_mul_right _ (Nat.le_trans (roundQuotient_mono le) (Nat.le_of_eq ?_))
  exact roundQuotient_mul_self _ _ _ (wholeGrid_pos magnitude)

theorem mul_le_nearestWhole (le : factor * wholeGrid magnitude ≤ magnitude) :
    factor * wholeGrid magnitude ≤ nearestWhole magnitude := by
  refine Nat.mul_le_mul_right _ (Nat.le_trans (Nat.le_of_eq ?_) (roundQuotient_mono le))
  exact (roundQuotient_mul_self _ _ _ (wholeGrid_pos magnitude)).symm

theorem wholeGrid_of_le (small : magnitude.log2 ≤ 52) : wholeGrid magnitude = 1 := by
  rw [wholeGrid, Nat.sub_eq_zero_of_le small]
  rfl

theorem log2_mono (le : magnitude ≤ other) : magnitude.log2 ≤ other.log2 := by
  rcases Nat.eq_zero_or_pos magnitude with rfl | positive
  · exact Nat.zero_le _
  · rw [Nat.le_log2 (Nat.ne_of_gt (Nat.lt_of_lt_of_le positive le))]
    exact Nat.le_trans (Nat.log2_self_le (Nat.ne_of_gt positive)) le

theorem log2_le_of_lt {power : Nat} (below : magnitude < twoTo (power + 1)) :
    magnitude.log2 ≤ power := by
  rcases Nat.eq_zero_or_pos magnitude with rfl | positive
  · exact Nat.zero_le _
  · exact Nat.le_of_lt_succ ((Nat.log2_lt (Nat.ne_of_gt positive)).2 below)

/-- Up to `2 ^ 53` every whole number has so few bits. -/
theorem nearestWhole_of_le (small : magnitude ≤ twoTo 53) : nearestWhole magnitude = magnitude := by
  rcases Nat.lt_or_eq_of_le small with below | rfl
  · have bits : magnitude.log2 ≤ 52 := log2_le_of_lt below
    exact nearestWhole_mul magnitude (by rw [wholeGrid_of_le bits, Nat.mul_one])
  · decide

/-- A larger magnitude does not go to a smaller number, whether it has more bits or not. -/
theorem nearestWhole_mono (le : magnitude ≤ other) :
    nearestWhole magnitude ≤ nearestWhole other := by
  have bits := log2_mono le
  rcases Nat.lt_or_eq_of_le (Nat.sub_le_sub_right bits 52) with finer | same
  · -- A power of two lies between the magnitudes, and both grids have it.
    have positive : other ≠ 0 := by
      rintro rfl
      simp at finer
    have below : magnitude ≤ twoTo other.log2 := by
      refine Nat.le_of_lt (Nat.lt_of_lt_of_le Nat.lt_log2_self ?_)
      exact twoTo_le (by omega)
    have above : twoTo other.log2 ≤ other := Nat.log2_self_le positive
    have onFiner : twoTo other.log2 =
        twoTo (other.log2 - (magnitude.log2 - 52)) * wholeGrid magnitude := by
      rw [wholeGrid, ← twoTo_add, Nat.sub_add_cancel (by omega)]
    have onCoarser : twoTo other.log2 = twoTo 52 * wholeGrid other := by
      rw [wholeGrid, ← twoTo_add, Nat.add_sub_cancel' (by omega)]
    rw [onFiner] at below
    calc nearestWhole magnitude
      _ ≤ twoTo (other.log2 - (magnitude.log2 - 52)) * wholeGrid magnitude :=
        nearestWhole_le_mul below
      _ = twoTo 52 * wholeGrid other := onFiner.symm.trans onCoarser
      _ ≤ nearestWhole other := mul_le_nearestWhole (onCoarser ▸ above)
  · rw [nearestWhole, nearestWhole, wholeGrid, wholeGrid, same]
    exact Nat.mul_le_mul_right _ (roundQuotient_mono le)

end Whole

theorem log2_mul_twoTo {magnitude : Nat} (positive : magnitude ≠ 0) (power : Nat) :
    (magnitude * twoTo power).log2 = magnitude.log2 + power := by
  have scale := twoTo_pos power
  rw [Nat.log2_eq_iff (Nat.mul_ne_zero positive (Nat.ne_of_gt scale))]
  constructor
  · rw [Nat.pow_add]
    exact Nat.mul_le_mul_right _ (Nat.log2_self_le positive)
  · rw [Nat.add_right_comm, Nat.pow_add]
    exact Nat.mul_lt_mul_of_pos_right Nat.lt_log2_self scale

/-- Integers of a 64-bit word stay far below infinity. -/
theorem nearestWhole_finite {magnitude : Nat} (fits : magnitude ≤ twoTo 63) :
    nearestWhole magnitude * unitsPerOne ≤ infinityUnits := by
  have largest : nearestWhole (twoTo 63) = twoTo 63 := by decide +kernel
  have below := nearestWhole_mono fits
  rw [largest] at below
  have powers : twoTo 63 ≤ twoTo 1024 := twoTo_le (show 63 ≤ 1024 by decide)
  rw [infinityUnits_eq]
  exact Nat.mul_le_mul_right _ (Nat.le_trans below powers)

/-- A whole number is rounded on the grid of its units as on the grid of whole numbers. Up to 53
bits the former is the finer one, and both have the number. -/
theorem roundQuotient_units (magnitude : Nat) :
    roundQuotient .toEven (magnitude * unitsPerOne) (twoTo (magnitude.log2 + 1074 - 52)) *
        twoTo (magnitude.log2 + 1074 - 52) =
      nearestWhole magnitude * unitsPerOne := by
  rcases Nat.le_total magnitude.log2 52 with small | large
  · have powers : 52 - magnitude.log2 + (magnitude.log2 + 1074 - 52) = 1074 := by omega
    have units : unitsPerOne =
        twoTo (52 - magnitude.log2) * twoTo (magnitude.log2 + 1074 - 52) := by
      rw [← twoTo_add, powers, unitsPerOne]
    have exact : nearestWhole magnitude = magnitude :=
      nearestWhole_mul magnitude (by rw [wholeGrid_of_le small, Nat.mul_one])
    rw [exact, units, ← Nat.mul_assoc, roundQuotient_mul_self _ _ _ (twoTo_pos _)]
  · have powers : magnitude.log2 + 1074 - 52 = magnitude.log2 - 52 + 1074 := by omega
    have grid : twoTo (magnitude.log2 + 1074 - 52) = wholeGrid magnitude * unitsPerOne := by
      rw [powers, twoTo_add, wholeGrid, unitsPerOne]
    rw [grid, roundQuotient_mul_mul unitsPerOne_pos, ← Nat.mul_assoc, ← nearestWhole]

/-- In units of the smallest number a whole number is rounded to the same number of bits. -/
theorem roundUnits_whole {magnitude : Nat} (fits : magnitude ≤ twoTo 63) :
    roundUnits (magnitude * unitsPerOne) 1 = nearestWhole magnitude * unitsPerOne := by
  rcases Nat.eq_zero_or_pos magnitude with rfl | positive
  · rw [Nat.zero_mul, roundUnits_zero, nearestWhole_of_le (Nat.zero_le _), Nat.zero_mul]
  · have bits : (magnitude * unitsPerOne).log2 = magnitude.log2 + 1074 :=
      log2_mul_twoTo (Nat.ne_of_gt positive) 1074
    rw [roundUnits, Nat.div_one, Nat.one_mul, bits, roundQuotient_units]
    exact Nat.min_eq_left (nearestWhole_finite fits)

/-- The whole number with 53 significant bits nearest to an integer. -/
def nearestInt (value : Int) : Int :=
  if value < 0 then -nearestWhole value.natAbs else nearestWhole value.natAbs

theorem nearestInt_mono {value other : Int} (le : value ≤ other) :
    nearestInt value ≤ nearestInt other := by
  unfold nearestInt
  split_ifs with negative otherNegative otherNegative
  · have magnitudes : nearestWhole other.natAbs ≤ nearestWhole value.natAbs :=
      nearestWhole_mono (by omega)
    omega
  · omega
  · omega
  · have magnitudes : nearestWhole value.natAbs ≤ nearestWhole other.natAbs :=
      nearestWhole_mono (by omega)
    omega

theorem nearestInt_of_le {value : Int} (small : value.natAbs ≤ twoTo 53) :
    nearestInt value = value := by
  rw [nearestInt, nearestWhole_of_le small]
  split_ifs <;> omega

/-- An integer of a 64-bit word is moved by 512 at most. -/
theorem nearestWhole_error {magnitude : Nat} (fits : magnitude ≤ twoTo 63) :
    nearestWhole magnitude ≤ magnitude + 512 ∧ magnitude ≤ nearestWhole magnitude + 512 := by
  rcases Nat.lt_or_eq_of_le fits with below | rfl
  · have grid : wholeGrid magnitude ≤ 1024 := by
      have bits : magnitude.log2 ≤ 62 := log2_le_of_lt below
      exact twoTo_le (show magnitude.log2 - 52 ≤ 10 by omega)
    have error : 2 * nearestWhole magnitude ≤ 2 * magnitude + wholeGrid magnitude ∧
        2 * magnitude ≤ 2 * nearestWhole magnitude + wholeGrid magnitude :=
      roundQuotient_error (wholeGrid_pos magnitude)
    omega
  · decide +kernel

theorem nearestInt_error {value : Int} (fits : value.natAbs ≤ twoTo 63) :
    (nearestInt value - value).natAbs ≤ 512 := by
  have error := nearestWhole_error fits
  unfold nearestInt
  split_ifs <;> omega

theorem signedUnits_ofInt {value : Int} (fits : value.natAbs ≤ twoTo 63) :
    (ofInt value).signedUnits = nearestInt value * unitsPerOne := by
  rw [ofInt, ofFraction, roundUnits_whole fits, signedUnits, nearestInt]
  by_cases negative : value < 0
  · rw [if_pos (decide_eq_true negative), if_pos negative, Int.natCast_mul, Int.neg_mul]
  · rw [if_neg (by rwa [decide_eq_true_eq]), if_neg negative, Int.natCast_mul]

end Binary64

end Intake
