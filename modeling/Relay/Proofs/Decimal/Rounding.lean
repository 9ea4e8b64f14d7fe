import Mathlib.Algebra.Order.Field.Power
import Mathlib.Algebra.Order.Ring.Rat
import Mathlib.Tactic.FieldSimp
import Mathlib.Tactic.Linarith
import Mathlib.Tactic.Positivity
import Mathlib.Tactic.Ring
import Relay.Decimal.Binary64

/-!
# Rounding to doubles

A fraction has a mantissa of full length at one power of two only, or at the least one. So the double of a
fraction depends on its value alone, and a double is the double of its own value. Rounding moves a value by half a
unit of its last place at most, and a value below `overflow` has a double.
-/

namespace Relay.Binary64

/-- A double has one form: the mantissa is full, unless the exponent is the least. -/
structure Canonical (x : Binary64) : Prop where
  short : x.mantissa < mantissaBound
  least : leastExponent ≤ x.exponent
  greatest : x.exponent ≤ greatestExponent
  full : x.exponent = leastExponent ∨ mantissaBound ≤ 2 * x.mantissa

instance (x : Binary64) : Decidable x.Canonical :=
  decidable_of_iff
    (x.mantissa < mantissaBound ∧ leastExponent ≤ x.exponent ∧ x.exponent ≤ greatestExponent ∧
      (x.exponent = leastExponent ∨ mantissaBound ≤ 2 * x.mantissa))
    ⟨fun ⟨short, least, greatest, full⟩ => ⟨short, least, greatest, full⟩,
      fun ⟨short, least, greatest, full⟩ => ⟨short, least, greatest, full⟩⟩

theorem canonical_zero (negative : Bool) : Canonical (zero negative) := by
  constructor <;> simp [zero, mantissaBound, leastExponent, greatestExponent]

theorem Canonical.least_of_zero {x : Binary64} (canonical : x.Canonical) (zero : x.mantissa = 0) :
    x.exponent = leastExponent := by
  have full := canonical.full
  simp only [zero, mantissaBound] at full
  omega

/-- The absolute value of a double. -/
def magnitude (x : Binary64) : ℚ := x.mantissa * 2 ^ x.exponent

/-! ### The exponent of a value -/

/-- A value has its mantissa at a power of two. -/
structure Fits (value : ℚ) (exponent : Int) : Prop where
  least : leastExponent ≤ exponent
  short : value < mantissaBound * 2 ^ exponent
  full : exponent = leastExponent ∨ mantissaBound * 2 ^ exponent ≤ 2 * value

theorem two_zpow_succ (e : Int) : (2 : ℚ) ^ (e + 1) = 2 * 2 ^ e := by
  rw [zpow_add_one₀ two_ne_zero, mul_comm]

theorem Fits.le {value : ℚ} {e f : Int} (first : Fits value e) (second : Fits value f) : e ≤ f := by
  by_contra less
  rcases first.full with least | full
  · have bound := second.least
    omega
  · have steps : (2 : ℚ) ^ (f + 1) ≤ 2 ^ e := zpow_le_zpow_right₀ one_le_two (by omega)
    have short := second.short
    rw [two_zpow_succ] at steps
    have bound : (0 : ℚ) < mantissaBound := by norm_num [mantissaBound]
    nlinarith

theorem Fits.unique {value : ℚ} {e f : Int} (first : Fits value e) (second : Fits value f) : e = f :=
  Int.le_antisymm (first.le second) (second.le first)

theorem Canonical.fits {x : Binary64} (canonical : x.Canonical) : Fits x.magnitude x.exponent where
  least := canonical.least
  short := by
    have short : (x.mantissa : ℚ) < mantissaBound := by exact_mod_cast canonical.short
    exact mul_lt_mul_of_pos_right short (by positivity)
  full := by
    refine canonical.full.imp_right fun full => ?_
    have full : (mantissaBound : ℚ) ≤ 2 * x.mantissa := by exact_mod_cast full
    rw [magnitude, ← mul_assoc]
    exact mul_le_mul_of_nonneg_right full (by positivity)

theorem power_two_cast {e : Int} (nonneg : 0 ≤ e) : (power 2 e : ℚ) = 2 ^ e := by
  obtain ⟨n, rfl⟩ := Int.eq_ofNat_of_zero_le nonneg
  simp [power]

theorem scale_pos (num : Nat) {den : Nat} (pos : 0 < den) (e : Int) : 0 < (scale num den e).2 := by
  unfold scale power
  split
  · exact Nat.mul_pos pos (Nat.pow_pos (by decide))
  · exact pos

theorem scale_div (num : Nat) {den : Nat} (pos : 0 < den) (e : Int) :
    ((scale num den e).1 : ℚ) / (scale num den e).2 = num / den / 2 ^ e := by
  have here : (den : ℚ) ≠ 0 := by positivity
  unfold scale
  split
  · rename_i nonneg
    push_cast
    rw [power_two_cast nonneg, div_div]
  · push_cast
    rw [power_two_cast (by omega), zpow_neg]
    field_simp

theorem mantissaBound_le_scale (num : Nat) {den : Nat} (pos : 0 < den) (e : Int) :
    mantissaBound ≤ (scale num den e).1 / (scale num den e).2 ↔
      (mantissaBound : ℚ) * 2 ^ e ≤ num / den := by
  have below := scale_pos num pos e
  rw [Nat.le_div_iff_mul_le below, ← le_div_iff₀ (by positivity), ← scale_div num pos e,
    le_div_iff₀ (by positivity)]
  exact_mod_cast Iff.rfl

/-- The lengths in bits of numerator and denominator bound a fraction from both sides. -/
theorem log2_bounds {num den : Nat} (some : num ≠ 0) (pos : 0 < den) :
    (2 : ℚ) ^ ((num.log2 : Int) - den.log2 - 1) < num / den ∧
      (num / den : ℚ) < 2 ^ ((num.log2 : Int) - den.log2 + 1) := by
  have numLow : (2 : ℚ) ^ (num.log2 : Int) ≤ num := by
    rw [zpow_natCast]; exact_mod_cast Nat.log2_self_le some
  have numHigh : (num : ℚ) < 2 ^ ((num.log2 : Int) + 1) := by
    rw [two_zpow_succ, zpow_natCast, ← pow_succ']; exact_mod_cast Nat.lt_log2_self
  have denLow : (2 : ℚ) ^ (den.log2 : Int) ≤ den := by
    rw [zpow_natCast]; exact_mod_cast Nat.log2_self_le (by omega)
  have denHigh : (den : ℚ) < 2 ^ ((den.log2 : Int) + 1) := by
    rw [two_zpow_succ, zpow_natCast, ← pow_succ']; exact_mod_cast Nat.lt_log2_self
  have below : (0 : ℚ) < den := by positivity
  constructor
  · rw [lt_div_iff₀ below]
    calc (2 : ℚ) ^ ((num.log2 : Int) - den.log2 - 1) * den
        < 2 ^ ((num.log2 : Int) - den.log2 - 1) * 2 ^ ((den.log2 : Int) + 1) :=
          mul_lt_mul_of_pos_left denHigh (by positivity)
      _ = 2 ^ (num.log2 : Int) := by rw [← zpow_add₀ two_ne_zero]; congr 1; omega
      _ ≤ num := numLow
  · rw [div_lt_iff₀ below]
    calc (num : ℚ) < 2 ^ ((num.log2 : Int) + 1) := numHigh
      _ = 2 ^ ((num.log2 : Int) - den.log2 + 1) * 2 ^ (den.log2 : Int) := by
          rw [← zpow_add₀ two_ne_zero]; congr 1; omega
      _ ≤ 2 ^ ((num.log2 : Int) - den.log2 + 1) * den :=
          mul_le_mul_of_nonneg_left denLow (by positivity)

theorem mantissaBound_eq : (mantissaBound : ℚ) = 2 ^ (53 : Int) := by norm_num [mantissaBound]

theorem fits_exponentFor {num den : Nat} (some : num ≠ 0) (pos : 0 < den) :
    Fits (num / den) (exponentFor num den) := by
  obtain ⟨low, high⟩ := log2_bounds some pos
  -- The lengths leave two candidates, and the quotient of the lower one tells which it is.
  obtain ⟨guess, guessed⟩ : ∃ guess, guess = max leastExponent ((num.log2 : Int) - den.log2 - 53) :=
    ⟨_, rfl⟩
  have chosen : exponentFor num den =
      if (mantissaBound : ℚ) * 2 ^ guess ≤ num / den then guess + 1 else guess := by
    simp only [exponentFor, ← guessed, mantissaBound_le_scale num pos guess]
  have above : (num / den : ℚ) < mantissaBound * 2 ^ (guess + 1) := by
    rw [mantissaBound_eq, ← zpow_add₀ two_ne_zero]
    exact high.trans_le (zpow_le_zpow_right₀ one_le_two (by omega))
  rw [chosen]
  split
  · rename_i full
    exact ⟨by omega, above, .inr (by rw [two_zpow_succ]; linarith)⟩
  · rename_i short
    refine ⟨by omega, not_le.mp short, ?_⟩
    by_cases least : guess = leastExponent
    · exact .inl least
    · have lower : (2 : ℚ) ^ (52 + guess) < num / den :=
        (zpow_le_zpow_right₀ one_le_two (by omega)).trans_lt low
      have half : (mantissaBound : ℚ) * 2 ^ guess = 2 * 2 ^ (52 + guess) := by
        rw [mantissaBound_eq, ← zpow_add₀ two_ne_zero, ← two_zpow_succ]; congr 1; omega
      exact .inr (by rw [half]; linarith)

/-! ### Rounding to whole numbers -/

theorem roundHalfEven_scaled (num den : Nat) {factor : Nat} (pos : 0 < factor) :
    roundHalfEven (num * factor) (den * factor) = roundHalfEven num den := by
  have quotient : num * factor / (den * factor) = num / den := Nat.mul_div_mul_right num den pos
  have twice : 2 * (num * factor % (den * factor)) = 2 * (num % den) * factor := by
    rw [Nat.mul_mod_mul_right, Nat.mul_assoc]
  simp only [roundHalfEven, quotient, twice, Nat.mul_lt_mul_right pos]

theorem roundHalfEven_congr {num den num' den' : Nat} (pos : 0 < den) (pos' : 0 < den')
    (same : (num / den : ℚ) = num' / den') : roundHalfEven num den = roundHalfEven num' den' := by
  have crossed : num * den' = num' * den := by
    rw [div_eq_div_iff (by positivity) (by positivity)] at same
    exact_mod_cast same
  rw [← roundHalfEven_scaled num den pos', ← roundHalfEven_scaled num' den' pos, crossed,
    Nat.mul_comm den]

theorem roundHalfEven_whole (n : Nat) : roundHalfEven n 1 = n := by
  simp [roundHalfEven, Nat.mod_one]

theorem le_roundHalfEven (num den : Nat) : num / den ≤ roundHalfEven num den := by
  unfold roundHalfEven
  dsimp only
  split_ifs <;> omega

theorem roundHalfEven_le (num den : Nat) : roundHalfEven num den ≤ num / den + 1 := by
  unfold roundHalfEven
  dsimp only
  split_ifs <;> omega

/-! ### The double of a fraction -/

theorem ofRatio_of_some (negative : Bool) {num den mantissa : Nat} {e : Int} (some : num ≠ 0)
    (exponent : exponentFor num den = e)
    (rounded : roundHalfEven (scale num den e).1 (scale num den e).2 = mantissa) :
    ofRatio negative num den =
      if mantissa = mantissaBound then
        if greatestExponent < e + 1 then none else Option.some ⟨negative, mantissaBound / 2, e + 1⟩
      else if greatestExponent < e then none else Option.some ⟨negative, mantissa, e⟩ := by
  simp only [ofRatio, some, if_false, exponent, rounded]
  by_cases carry : mantissa = mantissaBound <;> simp only [carry, if_true, if_false]

theorem ofRatio_congr (negative : Bool) {num den num' den' : Nat} (pos : 0 < den) (pos' : 0 < den')
    (same : (num / den : ℚ) = num' / den') : ofRatio negative num den = ofRatio negative num' den' := by
  have none : num = 0 ↔ num' = 0 := by
    have left : (num / den : ℚ) = 0 ↔ num = 0 := by
      rw [div_eq_zero_iff]; simp; omega
    have right : (num' / den' : ℚ) = 0 ↔ num' = 0 := by
      rw [div_eq_zero_iff]; simp; omega
    rw [← left, ← right, same]
  by_cases zero : num = 0
  · simp [ofRatio, zero, none.mp zero]
  · have zero' : num' ≠ 0 := fun absent => zero (none.mpr absent)
    have exponent : exponentFor num den = exponentFor num' den' :=
      (fits_exponentFor zero pos).unique (same ▸ fits_exponentFor zero' pos')
    have mantissa := roundHalfEven_congr (scale_pos num pos (exponentFor num' den'))
      (scale_pos num' pos' (exponentFor num' den'))
      (by rw [scale_div num pos, scale_div num' pos', same])
    simp only [ofRatio, zero, zero', if_false, exponent, mantissa]

theorem ofRatio_exact {x : Binary64} (canonical : x.Canonical) {num den : Nat} (pos : 0 < den)
    (same : (num / den : ℚ) = x.magnitude) : ofRatio x.negative num den = some x := by
  by_cases zero : num = 0
  · have none : x.mantissa = 0 := by
      have value : x.magnitude = 0 := by rw [← same, zero]; simp
      exact_mod_cast (mul_eq_zero.mp value).resolve_right (by positivity)
    have least : x.exponent = leastExponent := canonical.least_of_zero none
    obtain ⟨negative, mantissa, exponent⟩ := x
    simp_all [ofRatio, Binary64.zero]
  · have exponent : exponentFor num den = x.exponent :=
      (fits_exponentFor zero pos).unique (same ▸ canonical.fits)
    have mantissa : roundHalfEven (scale num den x.exponent).1 (scale num den x.exponent).2 =
        x.mantissa := by
      rw [← roundHalfEven_whole x.mantissa]
      refine roundHalfEven_congr (scale_pos num pos _) Nat.one_pos ?_
      rw [scale_div num pos, same, magnitude]
      field_simp
      simp
    rw [ofRatio_of_some _ zero exponent mantissa, if_neg (Nat.ne_of_lt canonical.short),
      if_neg (Int.not_lt.mpr canonical.greatest)]

theorem Fits.quotient_lt {num den : Nat} {e : Int} (fits : Fits (num / den) e) (pos : 0 < den) :
    (scale num den e).1 / (scale num den e).2 < mantissaBound := by
  have bound := fits.short
  rw [← not_le] at bound ⊢
  exact fun full => bound ((mantissaBound_le_scale num pos e).mp full)

theorem Fits.le_quotient {num den : Nat} {e : Int} (fits : Fits (num / den) e) (pos : 0 < den) :
    e = leastExponent ∨ mantissaBound / 2 ≤ (scale num den e).1 / (scale num den e).2 := by
  refine fits.full.imp_right fun full => ?_
  have below := scale_pos num pos e
  rw [Nat.le_div_iff_mul_le below]
  have half : (mantissaBound : ℚ) ≤ 2 * ((scale num den e).1 / (scale num den e).2) := by
    rw [scale_div num pos e, ← mul_div_assoc, le_div_iff₀ (by positivity)]
    exact full
  rw [← mul_div_assoc, le_div_iff₀ (by positivity)] at half
  have half : mantissaBound * (scale num den e).2 ≤ 2 * (scale num den e).1 := by exact_mod_cast half
  simp only [mantissaBound] at half ⊢
  omega

theorem canonical_ofRatio {negative : Bool} {num den : Nat} {x : Binary64} (pos : 0 < den)
    (read : ofRatio negative num den = some x) : x.Canonical := by
  by_cases zero : num = 0
  · rw [ofRatio, if_pos zero] at read
    cases read
    exact canonical_zero negative
  · obtain ⟨e, chosen⟩ : ∃ e, exponentFor num den = e := ⟨_, rfl⟩
    have fits : Fits (num / den) e := chosen ▸ fits_exponentFor zero pos
    have short := fits.quotient_lt pos
    have full := fits.le_quotient pos
    have least := fits.least
    have low := le_roundHalfEven (scale num den e).1 (scale num den e).2
    have high := roundHalfEven_le (scale num den e).1 (scale num den e).2
    rw [ofRatio_of_some negative zero chosen rfl] at read
    split at read
    -- The mantissa has been rounded up to its bound, so half of it goes with the next exponent.
    · split at read <;> cases read
      exact ⟨show mantissaBound / 2 < mantissaBound by decide, show leastExponent ≤ e + 1 by omega,
        show e + 1 ≤ greatestExponent by omega,
        .inr (show mantissaBound ≤ 2 * (mantissaBound / 2) by decide)⟩
    · split at read <;> cases read
      exact ⟨show roundHalfEven _ _ < mantissaBound by omega, least,
        show e ≤ greatestExponent by omega,
        full.imp_right fun half => show mantissaBound ≤ 2 * roundHalfEven _ _ by
          simp only [mantissaBound] at half ⊢; omega⟩

/-! ### How far rounding goes -/

theorem roundHalfEven_near (num : Nat) {den : Nat} (pos : 0 < den) :
    |(roundHalfEven num den : ℚ) - num / den| ≤ 1 / 2 := by
  have below : (0 : ℚ) < den := by exact_mod_cast pos
  have bounds : 2 * (den * roundHalfEven num den) ≤ 2 * num + den ∧
      2 * num ≤ 2 * (den * roundHalfEven num den) + den := by
    have parts := Nat.div_add_mod num den
    have short := Nat.mod_lt num pos
    have next : den * (num / den + 1) = den * (num / den) + den := Nat.mul_succ den _
    unfold roundHalfEven
    dsimp only
    split_ifs
    · omega
    · rw [next]
      omega
    · rcases Nat.mod_two_eq_zero_or_one (num / den) with even | odd
      · rw [even, Nat.add_zero]
        omega
      · rw [odd, next]
        omega
  have high : (2 * (den * roundHalfEven num den) : ℚ) ≤ 2 * num + den := by exact_mod_cast bounds.1
  have low : (2 * num : ℚ) ≤ 2 * (den * roundHalfEven num den) + den := by exact_mod_cast bounds.2
  have whole : (den * (num / den) : ℚ) = num := mul_div_cancel₀ _ (ne_of_gt below)
  rw [abs_le]
  constructor
  · refine le_of_mul_le_mul_left ?_ below
    linarith
  · refine le_of_mul_le_mul_left ?_ below
    linarith

/-- The mantissa and the exponent that a value is rounded to, the mantissa at its bound included. -/
structure Rounds (value : ℚ) (mantissa : Nat) (e : Int) : Prop where
  fits : Fits value e
  near : |(mantissa * 2 ^ e - value : ℚ)| ≤ 2 ^ e / 2

theorem exists_rounds {num den : Nat} (some : num ≠ 0) (pos : 0 < den) :
    ∃ mantissa e, Rounds (num / den) mantissa e ∧ ∀ negative, ofRatio negative num den =
      if mantissa = mantissaBound then
        if greatestExponent < e + 1 then none else Option.some ⟨negative, mantissaBound / 2, e + 1⟩
      else if greatestExponent < e then none else Option.some ⟨negative, mantissa, e⟩ := by
  obtain ⟨e, chosen⟩ : ∃ e, exponentFor num den = e := ⟨_, rfl⟩
  have scaled := roundHalfEven_near (scale num den e).1 (scale_pos num pos e)
  have unit : (0 : ℚ) < 2 ^ e := by positivity
  have whole : (num / den / 2 ^ e : ℚ) * 2 ^ e = num / den := div_mul_cancel₀ _ (ne_of_gt unit)
  refine ⟨_, e, ⟨chosen ▸ fits_exponentFor some pos, ?_⟩, fun negative => ofRatio_of_some negative some chosen rfl⟩
  rw [scale_div num pos] at scaled
  rw [← whole, ← sub_mul, abs_mul, abs_of_pos unit]
  nlinarith

/-- From here on a value has no double: half a unit beyond the greatest one. -/
def overflow : ℚ := (mantissaBound - 1 / 2) * 2 ^ greatestExponent

theorem magnitude_carried (negative : Bool) (e : Int) :
    magnitude ⟨negative, mantissaBound / 2, e + 1⟩ = mantissaBound * 2 ^ e := by
  rw [magnitude, two_zpow_succ]
  norm_num [mantissaBound]
  ring

theorem exists_ofRatio (negative : Bool) {num den : Nat} (pos : 0 < den) (small : (num / den : ℚ) < overflow) :
    ∃ x, ofRatio negative num den = some x := by
  by_cases none : num = 0
  · exact ⟨zero negative, by rw [ofRatio, if_pos none]⟩
  obtain ⟨mantissa, e, rounds, read⟩ := exists_rounds none pos
  have unit : (0 : ℚ) < 2 ^ greatestExponent := by positivity
  rw [overflow] at small
  -- A value that is not too large has its mantissa at the greatest exponent or below.
  have within : e ≤ greatestExponent := by
    by_contra beyond
    have steps : (2 : ℚ) ^ (greatestExponent + 1) ≤ 2 ^ e := zpow_le_zpow_right₀ one_le_two (by omega)
    have full := rounds.fits.full.resolve_left (by rw [leastExponent]; rw [greatestExponent] at beyond; omega)
    have twice := mul_le_mul_of_nonneg_left steps (Nat.cast_nonneg (α := ℚ) mantissaBound)
    rw [two_zpow_succ] at twice
    linarith
  rw [read]
  split
  · rename_i carry
    rw [if_neg]
    · exact ⟨_, rfl⟩
    · intro beyond
      have same : e = greatestExponent := by omega
      have near := (abs_le.mp rounds.near).2
      rw [carry, same] at near
      linarith
  · rw [if_neg (by omega)]
    exact ⟨_, rfl⟩

/-- A double lies at most half a unit of its last place below the value that is rounded to it. -/
theorem le_of_ofRatio {negative : Bool} {num den : Nat} {x : Binary64} (pos : 0 < den)
    (read : ofRatio negative num den = some x) : (num / den : ℚ) ≤ (x.mantissa + 1 / 2) * 2 ^ x.exponent := by
  by_cases none : num = 0
  · rw [none, Nat.cast_zero, zero_div]
    positivity
  obtain ⟨mantissa, e, rounds, rounded⟩ := exists_rounds none pos
  rw [rounded] at read
  split at read
  · split at read <;> cases read
    have short := rounds.fits.short
    have carried := magnitude_carried negative e
    rw [magnitude] at carried
    have unit : (0 : ℚ) < 2 ^ (e + 1) := by positivity
    linarith
  · split at read <;> cases read
    have near := (abs_le.mp rounds.near).1
    linarith

/-- The share of a value that rounding can add to it. -/
def relativeError : ℚ := 1 / 2 ^ 53

/-- A value of one or more is rounded up or down by a small share of it. -/
theorem magnitude_ofRatio_bounds {negative : Bool} {num den : Nat} {x : Binary64} (pos : 0 < den)
    (large : (1 : ℚ) ≤ num / den) (read : ofRatio negative num den = some x) :
    num / den * (1 - relativeError) ≤ x.magnitude ∧ x.magnitude ≤ num / den * (1 + relativeError) := by
  have some : num ≠ 0 := by
    rintro rfl
    norm_num at large
  obtain ⟨mantissa, e, rounds, rounded⟩ := exists_rounds some pos
  have magnitude : x.magnitude = mantissa * 2 ^ e := by
    rw [rounded] at read
    split at read
    · rename_i carry
      split at read <;> cases read
      rw [magnitude_carried, carry]
    · split at read <;> cases read
      rfl
  have unit : 2 ^ e / 2 ≤ num / den * relativeError := by
    have full : (mantissaBound : ℚ) * 2 ^ e ≤ 2 * (num / den) := by
      refine rounds.fits.full.resolve_left fun least => ?_
      have short := rounds.fits.short
      rw [least, mantissaBound_eq, ← zpow_add₀ two_ne_zero] at short
      exact not_lt_of_ge large (short.trans (zpow_lt_one_of_neg₀ one_lt_two (by decide)))
    norm_num [mantissaBound, relativeError] at full ⊢
    linarith
  obtain ⟨low, high⟩ := abs_le.mp rounds.near
  rw [magnitude]
  constructor <;> linarith

end Relay.Binary64
