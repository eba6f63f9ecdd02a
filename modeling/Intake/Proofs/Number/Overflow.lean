import Intake.Proofs.Number.Nearest
import Mathlib.Algebra.Order.Field.Power
import Mathlib.Algebra.Order.Ring.Rat

/-!
# Decimals beyond the finite numbers

The largest finite number is `2 ^ 1024 - 2 ^ 971`. What is at most half a step above it still goes
to it, and from there on a magnitude goes to infinity: at `2 ^ 1024 - 2 ^ 970` itself the tie is
decided for the even count, which is the infinite one.
-/

namespace Intake

/-- An even count is the rounding of all from half a step below it on. -/
theorem le_roundQuotient_toEven_iff {numerator denominator target : Nat}
    (positive : 0 < denominator)
    (even : target % 2 = 0) (reached : 0 < target) :
    target ≤ roundQuotient .toEven numerator denominator ↔
      2 * (target * denominator) ≤ 2 * numerator + denominator := by
  have whole := Nat.div_add_mod' numerator denominator
  have left := Nat.mod_lt numerator positive
  generalize found : numerator / denominator = quotient at whole
  rcases Nat.lt_trichotomy target (quotient + 1) with below | rfl | above
  · have small : target * denominator ≤ quotient * denominator :=
      Nat.mul_le_mul_right _ (Nat.le_of_lt_succ below)
    have rounded : quotient ≤ roundQuotient .toEven numerator denominator :=
      found ▸ le_roundQuotient
    constructor <;> omega
  · -- The quotient below the target is odd, so a tie goes up.
    have step : HalfWay.toEven.step quotient = 1 := by
      change quotient % 2 = 1
      omega
    have up : (quotient + 1) * denominator = quotient * denominator + denominator :=
      Nat.succ_mul _ _
    unfold roundQuotient
    simp only [found, step]
    split_ifs <;> omega
  · have large : (quotient + 2) * denominator ≤ target * denominator :=
      Nat.mul_le_mul_right _ above
    have up : (quotient + 2) * denominator = quotient * denominator + 2 * denominator :=
      Nat.add_mul _ _ _
    have rounded : roundQuotient .toEven numerator denominator ≤ quotient + 1 :=
      found ▸ roundQuotient_le
    constructor <;> omega

theorem cast_tenTo (power : Nat) : (tenTo power : ℚ) = 10 ^ (power : ℤ) := by
  rw [zpow_natCast]
  exact Nat.cast_pow 10 power

theorem tenTo_pos (power : Nat) : 0 < tenTo power :=
  Nat.pow_pos (by decide)

namespace Binary64

theorem twoTo_lt {power other : Nat} (lt : power < other) : twoTo power < twoTo other :=
  Nat.pow_lt_pow_right (by decide) lt

theorem twoTo_succ (power : Nat) : twoTo (power + 1) = 2 * twoTo power :=
  Nat.pow_succ'

theorem le_log2_iff {magnitude power : Nat} (positive : magnitude ≠ 0) :
    power ≤ magnitude.log2 ↔ twoTo power ≤ magnitude :=
  Nat.le_log2 positive

theorem infinityUnits_pos : 0 < infinityUnits :=
  twoTo_pos 2098

/-- The least magnitude that is rounded to infinity. -/
def overflowBound : Nat :=
  twoTo 1024 - twoTo 970

/-- The integers of a word are far below the bound. -/
theorem word_lt_overflowBound : twoTo 63 < overflowBound := by
  have doubled : twoTo 971 = 2 * twoTo 970 := twoTo_succ 970
  have large : twoTo 971 ≤ twoTo 1024 := twoTo_le (by decide)
  have small : twoTo 63 < twoTo 970 := twoTo_lt (by decide)
  rw [overflowBound]
  omega

theorem overflowBound_pos : 0 < overflowBound :=
  Nat.zero_lt_of_lt word_lt_overflowBound

theorem overflowBound_mul_unitsPerOne : overflowBound * unitsPerOne = twoTo 2098 - twoTo 2044 := by
  rw [overflowBound, Nat.sub_mul, unitsPerOne, ← twoTo_add, ← twoTo_add]

/-- The bound lies half a step below the first count past all numbers, where steps are those of the
numbers around it. -/
theorem two_mul_overflowBound :
    2 * (overflowBound * unitsPerOne) + twoTo 2045 = 2 * infinityUnits := by
  have half : twoTo 2045 = 2 * twoTo 2044 := twoTo_succ 2044
  have fewer : twoTo 2044 ≤ twoTo 2098 := twoTo_le (by omega)
  rw [overflowBound_mul_unitsPerOne, infinityUnits]
  omega

/-- A magnitude with fewer bits than the bound is rounded on a finer grid, and stays below. -/
theorem roundUnits_lt_of_lt {numerator denominator : Nat}
    (few : numerator / denominator < twoTo 2097) :
    roundUnits numerator denominator < infinityUnits := by
  have bits : (numerator / denominator).log2 ≤ 2096 := log2_le_of_lt few
  have doubled : infinityUnits = 2 * twoTo 2097 := twoTo_succ 2097
  have grid : twoTo ((numerator / denominator).log2 - 52) ≤ twoTo 2097 := twoTo_le (by omega)
  have rounded : roundQuotient .toEven numerator
        (denominator * twoTo ((numerator / denominator).log2 - 52)) ≤
      numerator / denominator / twoTo ((numerator / denominator).log2 - 52) + 1 := by
    rw [Nat.div_div_eq_div_mul]
    exact roundQuotient_le
  have scaled := Nat.mul_le_mul_right (twoTo ((numerator / denominator).log2 - 52)) rounded
  have whole := Nat.div_mul_le_self (numerator / denominator)
    (twoTo ((numerator / denominator).log2 - 52))
  rw [Nat.succ_mul] at scaled
  refine Nat.lt_of_le_of_lt (Nat.min_le_left _ _) ?_
  omega

/-- A magnitude with more bits than the bound is rounded past all numbers. -/
theorem infinityUnits_le_roundUnits {numerator denominator : Nat}
    (many : twoTo 2098 ≤ numerator / denominator) :
    infinityUnits ≤ roundUnits numerator denominator := by
  have positive : numerator / denominator ≠ 0 :=
    Nat.ne_of_gt (Nat.lt_of_lt_of_le (twoTo_pos _) many)
  have bits : 2098 ≤ (numerator / denominator).log2 := (le_log2_iff positive).2 many
  have top : twoTo 52 * twoTo ((numerator / denominator).log2 - 52) =
      twoTo (numerator / denominator).log2 := by
    rw [← twoTo_add, Nat.add_sub_cancel' (by omega)]
  have rounded : twoTo 52 ≤ roundQuotient .toEven numerator
      (denominator * twoTo ((numerator / denominator).log2 - 52)) := by
    refine Nat.le_trans ?_ le_roundQuotient
    rw [← Nat.div_div_eq_div_mul, Nat.le_div_iff_mul_le (twoTo_pos _), top]
    exact Nat.log2_self_le positive
  have scaled := Nat.mul_le_mul_right (twoTo ((numerator / denominator).log2 - 52)) rounded
  have large : infinityUnits ≤ twoTo (numerator / denominator).log2 := twoTo_le bits
  rw [top] at scaled
  exact Nat.le_min.2 ⟨Nat.le_trans large scaled, Nat.le_refl _⟩

/-- A magnitude with as many bits as the bound is rounded on the grid of the numbers around it. -/
theorem infinityUnits_le_roundUnits_iff {numerator denominator : Nat} (positive : 0 < denominator)
    (bits : (numerator / denominator).log2 = 2097) :
    infinityUnits ≤ roundUnits numerator denominator ↔
      overflowBound * unitsPerOne * denominator ≤ numerator := by
  have steps : infinityUnits = twoTo 53 * twoTo 2045 := twoTo_add 53 2045
  have grid : 2097 - 52 = 2045 := rfl
  have even : twoTo 53 % 2 = 0 := by decide
  rw [roundUnits, bits, grid, Nat.le_min, and_iff_left (Nat.le_refl _), steps,
    Nat.mul_le_mul_right_iff (twoTo_pos _),
    le_roundQuotient_toEven_iff (Nat.mul_pos positive (twoTo_pos _)) even (twoTo_pos _)]
  have reached : twoTo 53 * (denominator * twoTo 2045) = infinityUnits * denominator := by
    rw [steps, Nat.mul_right_comm, Nat.mul_assoc]
  have half := congrArg (· * denominator) two_mul_overflowBound
  simp only [Nat.add_mul, Nat.mul_assoc 2] at half
  rw [reached, Nat.mul_comm denominator]
  omega

/-- A magnitude stays finite below the bound. -/
theorem roundUnits_lt_iff {numerator denominator : Nat} (positive : 0 < denominator) :
    roundUnits numerator denominator < infinityUnits ↔
      numerator < overflowBound * unitsPerOne * denominator := by
  have half := two_mul_overflowBound
  have doubled : infinityUnits = 2 * twoTo 2097 := twoTo_succ 2097
  have fit : twoTo 2045 ≤ twoTo 2097 := twoTo_le (by omega)
  rcases Nat.lt_or_ge (numerator / denominator) (twoTo 2097) with few | enough
  · refine iff_of_true (roundUnits_lt_of_lt few) ?_
    have below := (Nat.div_lt_iff_lt_mul positive).1 few
    exact Nat.lt_of_lt_of_le below (Nat.mul_le_mul_right _ (by omega))
  · rcases Nat.lt_or_ge (numerator / denominator) (twoTo 2098) with inside | many
    · have nonzero : numerator / denominator ≠ 0 :=
        Nat.ne_of_gt (Nat.lt_of_lt_of_le (twoTo_pos _) enough)
      have bits : (numerator / denominator).log2 = 2097 :=
        Nat.le_antisymm (log2_le_of_lt inside) ((le_log2_iff nonzero).2 enough)
      rw [← Nat.not_le, infinityUnits_le_roundUnits_iff positive bits, Nat.not_le]
    · refine iff_of_false (Nat.not_lt.2 (infinityUnits_le_roundUnits many)) (Nat.not_lt.2 ?_)
      have above := (Nat.le_div_iff_mul_le positive).1 many
      have whole : twoTo 2098 = infinityUnits := rfl
      exact Nat.le_trans (Nat.mul_le_mul_right _ (by omega)) above

theorem isFinite_ofFraction_iff (negative : Bool) (numerator : Nat) {denominator : Nat}
    (positive : 0 < denominator) :
    (ofFraction negative numerator denominator).isFinite = true ↔
      numerator < overflowBound * denominator := by
  rw [isFinite, decide_eq_true_iff, ofFraction, roundUnits_lt_iff positive, Nat.mul_right_comm,
    Nat.mul_lt_mul_right unitsPerOne_pos]

/-- A decimal stays finite below the bound, whichever way its exponent is taken. -/
theorem isFinite_ofDecimal_iff (negative : Bool) (significand : Nat) (exponent : Int) :
    (ofDecimal negative significand exponent).isFinite = true ↔
      (significand : ℚ) * 10 ^ exponent < overflowBound := by
  have bound : (0 : ℚ) < overflowBound := Nat.cast_pos.2 overflowBound_pos
  have scale : (0 : ℚ) < 10 ^ exponent := zpow_pos (by norm_num) exponent
  have finiteZero : (⟨negative, 0⟩ : Binary64).isFinite = true :=
    decide_eq_true infinityUnits_pos
  unfold ofDecimal
  split_ifs with zero large small whole
  · subst zero
    simpa only [finiteZero, Nat.cast_zero, zero_mul, true_iff] using bound
  · refine iff_of_false (by simp [isFinite]) (not_lt.2 ?_)
    have powers : overflowBound ≤ tenTo 400 := by decide +kernel
    calc (overflowBound : ℚ)
      _ ≤ (tenTo 400 : ℕ) := Nat.cast_le.2 powers
      _ = 10 ^ ((400 : ℕ) : ℤ) := cast_tenTo 400
      _ ≤ 10 ^ exponent := zpow_le_zpow_right₀ (by norm_num) (by omega)
      _ ≤ significand * 10 ^ exponent :=
        le_mul_of_one_le_left scale.le (Nat.one_le_cast.2 (Nat.pos_of_ne_zero zero))
  · rw [finiteZero]
    refine iff_of_true rfl ?_
    have digits : significand ≤ tenTo (significand.log2 + 1) :=
      Nat.le_trans (Nat.le_of_lt Nat.lt_log2_self) (Nat.pow_le_pow_left (by decide) _)
    calc (significand : ℚ) * 10 ^ exponent
      _ ≤ (tenTo (significand.log2 + 1) : ℕ) * 10 ^ exponent :=
        mul_le_mul_of_nonneg_right (Nat.cast_le.2 digits) scale.le
      _ = 10 ^ (((significand.log2 + 1 : ℕ) : ℤ) + exponent) := by
        rw [cast_tenTo, ← zpow_add₀ (by norm_num)]
      _ < 10 ^ (0 : ℤ) := zpow_lt_zpow_right₀ (by norm_num) (by push_cast; omega)
      _ = 1 := zpow_zero _
      _ ≤ overflowBound := Nat.one_le_cast.2 overflowBound_pos
  · obtain ⟨power, rfl⟩ := Int.eq_ofNat_of_zero_le whole
    rw [Int.toNat_natCast, isFinite_ofFraction_iff negative _ Nat.one_pos, Nat.mul_one,
      ← cast_tenTo, ← Nat.cast_mul, Nat.cast_lt]
  · obtain ⟨power, rfl⟩ : ∃ power : Nat, exponent = -power := ⟨exponent.natAbs, by omega⟩
    rw [neg_neg, Int.toNat_natCast, isFinite_ofFraction_iff negative _ (tenTo_pos power), zpow_neg,
      ← cast_tenTo, ← div_eq_mul_inv, div_lt_iff₀ (Nat.cast_pos.2 (tenTo_pos power)),
      ← Nat.cast_mul, Nat.cast_lt]

end Binary64

end Intake
