import Relay.Decimal.Stepwise
import Relay.Proofs.Decimal.ShortestReadsBack

/-!
# Decimals in steps are read

A step down never leaves the range of doubles. A step up rounds three times, and each time it may add its share to
the value, so that only a value a little below `overflow` is sure to stay in range: `exists_ofSteps`. Every double
but the two greatest ones is so far below that a decimal which is nearest to it has a double in steps as well.
-/

namespace Relay.Binary64

theorem ratio_pos (x : Binary64) : 0 < x.ratio.2 := by
  unfold ratio
  split
  · exact Nat.one_pos
  · exact power_pos (by decide) _

theorem ratio_div (x : Binary64) : (x.ratio.1 / x.ratio.2 : ℚ) = x.magnitude := by
  unfold ratio magnitude
  split
  · rename_i nonneg
    push_cast
    rw [power_two_cast nonneg, div_one]
  · rw [power_two_cast (by omega), zpow_neg, div_inv_eq_mul]

theorem Canonical.magnitude_lt_overflow {x : Binary64} (canonical : x.Canonical) : x.magnitude < overflow := by
  have short : (x.mantissa : ℚ) + 1 ≤ mantissaBound := by exact_mod_cast canonical.short
  have greatest : (2 : ℚ) ^ x.exponent ≤ 2 ^ greatestExponent :=
    zpow_le_zpow_right₀ one_le_two canonical.greatest
  have unit : (0 : ℚ) < 2 ^ greatestExponent := by positivity
  calc x.magnitude ≤ x.mantissa * 2 ^ greatestExponent := mul_le_mul_of_nonneg_left greatest (Nat.cast_nonneg _)
    _ < overflow := by
      rw [overflow]
      exact mul_lt_mul_of_pos_right (by linarith) unit

/-- The powers of ten that are in range. The powers are named, for no step of the comparison needs their digits. -/
theorem ten_pow_bounds : (10 : ℚ) ^ longestStep < overflow ∧ overflow < 10 ^ (longestStep + 1) := by
  obtain ⟨low, isLow⟩ : ∃ low : Nat, 10 ^ longestStep = low := ⟨_, rfl⟩
  obtain ⟨high, isHigh⟩ : ∃ high : Nat, 10 ^ (longestStep + 1) = high := ⟨_, rfl⟩
  obtain ⟨unit, isUnit⟩ : ∃ unit : Nat, 2 ^ 971 = unit := ⟨_, rfl⟩
  have compared : 2 * low + unit < 2 * mantissaBound * unit ∧ mantissaBound * unit < high := by
    subst isLow isHigh isUnit
    decide +kernel
  have unitCast : (2 : ℚ) ^ greatestExponent = unit := by
    rw [← isUnit, Nat.cast_pow]
    exact zpow_natCast 2 971
  have lowCast : (10 : ℚ) ^ longestStep = low := by rw [← isLow, Nat.cast_pow, Nat.cast_ofNat]
  have highCast : (10 : ℚ) ^ (longestStep + 1) = high := by rw [← isHigh, Nat.cast_pow, Nat.cast_ofNat]
  rw [overflow, unitCast, lowCast, highCast]
  have below : (2 * low + unit : ℚ) < 2 * mantissaBound * unit := by exact_mod_cast compared.1
  have above : (mantissaBound * unit : ℚ) < high := by exact_mod_cast compared.2
  have nonneg : (0 : ℚ) ≤ unit := Nat.cast_nonneg unit
  constructor <;> linarith

/-! ### One step -/

/-- What the powers of ten of a step are rounded to. -/
theorem exists_tenPower {step : Nat} (short : step ≤ longestStep) :
    ∃ ten, tenPower step = some ten ∧
      10 ^ step * (1 - relativeError) ≤ ten.magnitude ∧ ten.magnitude ≤ 10 ^ step * (1 + relativeError) := by
  have value : ((Nat.pow 10 step : Nat) / (1 : Nat) : ℚ) = 10 ^ step := by simp
  have large : (1 : ℚ) ≤ (Nat.pow 10 step : Nat) / (1 : Nat) := by
    rw [value]
    exact one_le_pow₀ (by norm_num)
  have small : ((Nat.pow 10 step : Nat) / (1 : Nat) : ℚ) < overflow := by
    rw [value]
    exact (pow_le_pow_right₀ (by norm_num) short).trans_lt ten_pow_bounds.1
  obtain ⟨ten, read⟩ := exists_ofRatio false Nat.one_pos small
  have bounds := magnitude_ofRatio_bounds Nat.one_pos large read
  rw [value] at bounds
  exact ⟨ten, read, bounds⟩

theorem exists_dividedBy {x ten : Binary64} (canonical : x.Canonical) (large : 1 ≤ ten.magnitude) :
    ∃ y, x.dividedBy ten = some y ∧ y.Canonical := by
  have some : 0 < ten.ratio.1 := by
    refine Nat.pos_of_ne_zero fun none => ?_
    rw [← ratio_div, none, Nat.cast_zero, zero_div] at large
    exact absurd large (by norm_num)
  have pos : 0 < x.ratio.2 * ten.ratio.1 := Nat.mul_pos x.ratio_pos some
  have value : ((x.ratio.1 * ten.ratio.2 : Nat) / (x.ratio.2 * ten.ratio.1 : Nat) : ℚ) = x.magnitude / ten.magnitude := by
    push_cast
    rw [← ratio_div, ← ratio_div, div_div_div_eq]
  have small : ((x.ratio.1 * ten.ratio.2 : Nat) / (x.ratio.2 * ten.ratio.1 : Nat) : ℚ) < overflow := by
    rw [value]
    refine (div_le_self ?_ large).trans_lt canonical.magnitude_lt_overflow
    exact mul_nonneg (Nat.cast_nonneg _) (by positivity)
  obtain ⟨y, read⟩ := exists_ofRatio (x.negative != ten.negative) pos small
  exact ⟨y, read, canonical_ofRatio pos read⟩

theorem exists_stepDown {x : Binary64} (canonical : x.Canonical) {step : Nat} (some : step ≠ 0)
    (short : step ≤ longestStep) : ∃ ten y, tenPower step = .some ten ∧ x.dividedBy ten = .some y ∧ y.Canonical := by
  obtain ⟨ten, read, low, -⟩ := exists_tenPower short
  have ten_le : (10 : ℚ) ≤ 10 ^ step := le_self_pow₀ (by norm_num) some
  have large : 1 ≤ ten.magnitude := by
    norm_num [relativeError] at low
    linarith
  obtain ⟨y, divided, canonical⟩ := exists_dividedBy canonical large
  exact ⟨ten, y, read, divided, canonical⟩

theorem exists_lowered {last : Nat} (some : last ≠ 0) (short : last ≤ longestStep) (rounds : Nat) {x : Binary64}
    (canonical : x.Canonical) : ∃ y, lowered last rounds x = .some y ∧ y.Canonical := by
  induction rounds generalizing x with
  | zero =>
    obtain ⟨ten, y, read, divided, canonical⟩ := exists_stepDown canonical some short
    exact ⟨y, by simp [lowered, read, divided], canonical⟩
  | succ rounds ih =>
    rw [lowered]
    split
    · exact ⟨x, rfl, canonical⟩
    · obtain ⟨ten, y, read, divided, canonical⟩ :=
        exists_stepDown canonical (show longestStep ≠ 0 by decide) (Nat.le_refl _)
      obtain ⟨z, rest, canonical⟩ := ih canonical
      exact ⟨z, by simp [read, divided, rest], canonical⟩

/-- The longest steps leave a last one that is no longer. -/
theorem exists_lowered_by {down : Nat} (some : down ≠ 0) {x : Binary64} (canonical : x.Canonical) :
    let rounds := (down - 1) / longestStep
    ∃ y, lowered (down - rounds * longestStep) rounds x = .some y ∧ y.Canonical := by
  refine exists_lowered ?_ ?_ _ canonical <;> simp only [longestStep] <;> omega

/-! ### All steps -/

/-- A value up to here stays in range though it is rounded up three times. -/
def reach : ℚ := (mantissaBound - 5 / 2) * 2 ^ greatestExponent

theorem reach_lt_overflow : reach < overflow := by
  have unit : (0 : ℚ) < 2 ^ greatestExponent := by positivity
  exact mul_lt_mul_of_pos_right (by linarith) unit

theorem reach_rounded_twice : reach * (1 + relativeError) ^ 2 < overflow := by
  have unit : (0 : ℚ) < 2 ^ greatestExponent := by positivity
  have share : ((mantissaBound - 5 / 2) * (1 + relativeError) ^ 2 : ℚ) < mantissaBound - 1 / 2 := by
    norm_num [mantissaBound, relativeError]
  rw [reach, overflow, mul_right_comm]
  exact mul_lt_mul_of_pos_right share unit

/-- The digits of a number of 64 bits, rounded. -/
theorem exists_significand (negative : Bool) {significand : Nat} (fits : significand < 2 ^ 64) :
    ∃ x, ofRatio negative significand 1 = some x ∧ x.Canonical ∧
      (significand = 0 → x.mantissa = 0) ∧ x.magnitude ≤ significand * (1 + relativeError) := by
  have value : (significand / (1 : Nat) : ℚ) = significand := by rw [Nat.cast_one, div_one]
  have small : (significand / (1 : Nat) : ℚ) < overflow := by
    rw [value]
    have fits : (significand : ℚ) < 2 ^ 64 := by exact_mod_cast fits
    have powers : (2 : ℚ) ^ 64 ≤ 10 ^ longestStep := by
      calc (2 : ℚ) ^ 64 ≤ 10 ^ 20 := by norm_num
        _ ≤ 10 ^ longestStep := pow_le_pow_right₀ (by norm_num) (by decide)
    exact (fits.trans_le powers).trans ten_pow_bounds.1
  obtain ⟨x, read⟩ := exists_ofRatio negative Nat.one_pos small
  refine ⟨x, read, canonical_ofRatio Nat.one_pos read, ?_, ?_⟩
  · rintro rfl
    rw [ofRatio, if_pos rfl] at read
    cases read
    rfl
  · by_cases none : significand = 0
    · rw [none, ofRatio, if_pos rfl] at read
      cases read
      simp [magnitude, zero, none]
    · have large : (1 : ℚ) ≤ significand / (1 : Nat) := by
        rw [value]
        exact_mod_cast Nat.one_le_iff_ne_zero.mpr none
      have bound := (magnitude_ofRatio_bounds Nat.one_pos large read).2
      rwa [value] at bound

theorem exists_times {x ten : Binary64} (small : x.magnitude * ten.magnitude < overflow) :
    ∃ y, x.times ten = some y := by
  have pos : 0 < x.ratio.2 * ten.ratio.2 := Nat.mul_pos x.ratio_pos ten.ratio_pos
  have value : ((x.ratio.1 * ten.ratio.1 : Nat) / (x.ratio.2 * ten.ratio.2 : Nat) : ℚ) =
      x.magnitude * ten.magnitude := by
    push_cast
    rw [← ratio_div, ← ratio_div, div_mul_div_comm]
  exact exists_ofRatio (x.negative != ten.negative) pos (value ▸ small)

/-- A decimal that is within reach has a double in steps. -/
theorem exists_ofSteps (negative : Bool) {significand : Nat} {exponent : Int} (fits : significand < 2 ^ 64)
    (within : (significand * 10 ^ exponent : ℚ) ≤ reach) :
    ∃ y, ofSteps negative significand exponent = some y := by
  obtain ⟨x, read, canonical, none, bound⟩ := exists_significand negative fits
  simp only [ofSteps, read, Option.bind_eq_bind, Option.bind_some]
  split
  · obtain ⟨y, lowered, -⟩ := exists_lowered_by (show (-exponent).toNat ≠ 0 by omega) canonical
    exact ⟨y, lowered⟩
  · rename_i up
    obtain ⟨step, rfl⟩ := Int.eq_ofNat_of_zero_le (Int.not_lt.mp up)
    rw [zpow_natCast] at within
    split
    · rename_i short
      obtain ⟨ten, power, -, high⟩ := exists_tenPower (Int.ofNat_le.mp short)
      have product : x.magnitude * ten.magnitude < overflow :=
        calc x.magnitude * ten.magnitude
            ≤ significand * (1 + relativeError) * (10 ^ step * (1 + relativeError)) := by
              refine mul_le_mul bound high ?_ ?_
              · exact mul_nonneg (Nat.cast_nonneg _) (by positivity)
              · exact mul_nonneg (Nat.cast_nonneg _) (by norm_num [relativeError])
          _ = significand * 10 ^ step * (1 + relativeError) ^ 2 := by ring
          _ ≤ reach * (1 + relativeError) ^ 2 := mul_le_mul_of_nonneg_right within (sq_nonneg _)
          _ < overflow := reach_rounded_twice
      simpa [power] using exists_times product
    · rename_i long
      have zero : significand = 0 := by
        by_contra some
        have one : (1 : ℚ) ≤ significand := by exact_mod_cast Nat.one_le_iff_ne_zero.mpr some
        have powers : (10 : ℚ) ^ (longestStep + 1) ≤ 10 ^ step := pow_le_pow_right₀ (by norm_num) (by omega)
        have least : (10 : ℚ) ^ step ≤ significand * 10 ^ step := le_mul_of_one_le_left (by positivity) one
        have beyond := ten_pow_bounds.2.trans_le ((powers.trans least).trans within)
        exact absurd reach_lt_overflow (not_lt_of_gt beyond)
      rw [if_pos (none zero)]
      exact ⟨x, rfl⟩

theorem canonical_ofSteps {negative : Bool} {significand : Nat} {exponent : Int} {y : Binary64}
    (read : ofSteps negative significand exponent = some y) : y.Canonical := by
  obtain ⟨x, first, read⟩ := Option.bind_eq_some_iff.mp read
  have canonical := canonical_ofRatio Nat.one_pos first
  split at read
  · rename_i down
    obtain ⟨y, lowered, canonical⟩ := exists_lowered_by (show (-exponent).toNat ≠ 0 by omega) canonical
    cases lowered.symm.trans read
    exact canonical
  · split at read
    · obtain ⟨ten, -, product⟩ := Option.bind_eq_some_iff.mp read
      exact canonical_ofRatio (Nat.mul_pos x.ratio_pos ten.ratio_pos) product
    · split at read <;> cases read
      exact canonical

/-! ### Decimals that are nearest to a double -/

/-- A decimal that is too small to be told from zero is less than half of the least double. -/
theorem tiny_decimal {digits : Nat} {exponent : Int}
    (low : ((Nat.toDigits 10 digits).length : Int) + exponent < -400) :
    (digits * 10 ^ exponent : ℚ) ≤ 1 / 2 * 2 ^ leastExponent := by
  have short : digits < 10 ^ (Nat.toDigits 10 digits).length :=
    (Nat.length_toDigits_le_iff (by decide) Nat.length_toDigits_pos).mp (Nat.le_refl _)
  have short : (digits : ℚ) ≤ 10 ^ ((Nat.toDigits 10 digits).length : Int) := by
    rw [zpow_natCast]
    exact_mod_cast short.le
  have twos : 2 ^ 1075 ≤ 10 ^ 401 := by decide +kernel
  have twos : (2 : ℚ) ^ (1075 : Int) ≤ 10 ^ (401 : Int) := by exact_mod_cast twos
  calc (digits * 10 ^ exponent : ℚ)
      ≤ 10 ^ ((Nat.toDigits 10 digits).length : Int) * 10 ^ exponent :=
        mul_le_mul_of_nonneg_right short (by positivity)
    _ = 10 ^ (((Nat.toDigits 10 digits).length : Int) + exponent) := (zpow_add₀ (by norm_num) _ _).symm
    _ ≤ 10 ^ (-401 : Int) := zpow_le_zpow_right₀ (by norm_num) (by omega)
    _ ≤ 2 ^ (-1075 : Int) := by
      rw [zpow_neg, zpow_neg]
      exact inv_anti₀ (by positivity) twos
    _ = 1 / 2 * 2 ^ leastExponent := by
      rw [leastExponent, show (-1074 : Int) = -1075 + 1 from rfl, two_zpow_succ]
      ring

/-- A decimal that is nearest to a double is at most half a unit of its last place greater. -/
theorem le_of_ofDecimal {negative : Bool} {digits : Nat} {exponent : Int} {x : Binary64}
    (read : ofDecimal negative digits exponent = some x) :
    (digits * 10 ^ exponent : ℚ) ≤ (x.mantissa + 1 / 2) * 2 ^ x.exponent := by
  by_cases none : digits = 0
  · rw [none, Nat.cast_zero, zero_mul]
    positivity
  by_cases high : 310 < ((Nat.toDigits 10 digits).length : Int) + exponent
  · rw [ofDecimal, if_neg none, if_pos high] at read
    cases read
  by_cases low : ((Nat.toDigits 10 digits).length : Int) + exponent < -400
  · rw [ofDecimal, if_neg none, if_neg high, if_pos low] at read
    cases read
    simpa [zero] using tiny_decimal low
  · obtain ⟨num, den, pos, same⟩ := exists_fraction digits exponent
    rw [ofDecimal_eq negative none (Int.not_lt.mp low) (Int.not_lt.mp high) pos same] at read
    exact same ▸ le_of_ofRatio pos read

/-- All doubles but the two greatest ones are within reach with what is nearest to them. -/
theorem le_reach {x : Binary64} (canonical : x.Canonical)
    (less : x.exponent < greatestExponent ∨ x.mantissa + 2 < mantissaBound) :
    ((x.mantissa + 1 / 2) * 2 ^ x.exponent : ℚ) ≤ reach := by
  have nonneg : (0 : ℚ) ≤ x.mantissa + 1 / 2 := by positivity
  have unit : (0 : ℚ) < 2 ^ greatestExponent := by positivity
  have short : (x.mantissa : ℚ) + 1 ≤ mantissaBound := by exact_mod_cast canonical.short
  rcases less with lower | smaller
  · have twice : (2 : ℚ) ^ (x.exponent + 1) ≤ 2 ^ greatestExponent := zpow_le_zpow_right₀ one_le_two lower
    rw [two_zpow_succ] at twice
    have small : (mantissaBound : ℚ) * (1 / 2) ≤ mantissaBound - 5 / 2 := by norm_num [mantissaBound]
    calc ((x.mantissa + 1 / 2) * 2 ^ x.exponent : ℚ)
        ≤ mantissaBound * (2 ^ greatestExponent / 2) := by
          refine mul_le_mul (by linarith) (by linarith) (by positivity) (Nat.cast_nonneg _)
      _ = mantissaBound * (1 / 2) * 2 ^ greatestExponent := by ring
      _ ≤ reach := mul_le_mul_of_nonneg_right small unit.le
  · have smaller : (x.mantissa : ℚ) + 3 ≤ mantissaBound := by exact_mod_cast smaller
    have greatest : (2 : ℚ) ^ x.exponent ≤ 2 ^ greatestExponent :=
      zpow_le_zpow_right₀ one_le_two canonical.greatest
    calc ((x.mantissa + 1 / 2) * 2 ^ x.exponent : ℚ)
        ≤ (x.mantissa + 1 / 2) * 2 ^ greatestExponent := mul_le_mul_of_nonneg_left greatest nonneg
      _ ≤ reach := mul_le_mul_of_nonneg_right (by linarith) unit.le

end Relay.Binary64
