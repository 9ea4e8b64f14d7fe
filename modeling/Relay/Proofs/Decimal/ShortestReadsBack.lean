import Relay.Decimal.Shortest
import Relay.Proofs.Decimal.Rounding

/-!
# The shortest decimal is read back

A decimal stands for the same double with zeros behind its digits and a smaller exponent, and the decimal that
is written for a double stands for that double.
-/

namespace Relay.Binary64

/-! ### The double of a decimal -/

theorem power_ten_cast {e : Int} (nonneg : 0 ≤ e) : (power 10 e : ℚ) = 10 ^ e := by
  obtain ⟨n, rfl⟩ := Int.eq_ofNat_of_zero_le nonneg
  simp [power]

theorem power_pos {base : Nat} (pos : 0 < base) (e : Int) : 0 < power base e := Nat.pow_pos pos

theorem ofDecimal_eq (negative : Bool) {digits num den : Nat} {exponent : Int} (some : digits ≠ 0)
    (low : -400 ≤ ((Nat.toDigits 10 digits).length : Int) + exponent)
    (high : ((Nat.toDigits 10 digits).length : Int) + exponent ≤ 310) (pos : 0 < den)
    (same : (num / den : ℚ) = digits * 10 ^ exponent) :
    ofDecimal negative digits exponent = ofRatio negative num den := by
  simp only [ofDecimal, some, if_false]
  rw [if_neg (Int.not_lt.mpr high), if_neg (Int.not_lt.mpr low)]
  split
  · rename_i nonneg
    refine ofRatio_congr negative Nat.one_pos pos ?_
    rw [same]
    push_cast
    rw [power_ten_cast nonneg, div_one]
  · refine ofRatio_congr negative (power_pos (by decide) _) pos ?_
    rw [same, power_ten_cast (by omega), zpow_neg, div_inv_eq_mul]

/-- Every decimal is a fraction. -/
theorem exists_fraction (digits : Nat) (exponent : Int) :
    ∃ num den : Nat, 0 < den ∧ (num / den : ℚ) = digits * 10 ^ exponent := by
  by_cases nonneg : 0 ≤ exponent
  · exact ⟨digits * power 10 exponent, 1, Nat.one_pos, by push_cast; rw [power_ten_cast nonneg, div_one]⟩
  · exact ⟨digits, power 10 (-exponent), power_pos (by decide) _,
      by rw [power_ten_cast (by omega), zpow_neg, div_inv_eq_mul]⟩

theorem length_toDigits_shifted {n : Nat} (some : n ≠ 0) (k : Nat) :
    (Nat.toDigits 10 (n * 10 ^ k)).length = (Nat.toDigits 10 n).length + k := by
  induction k with
  | zero => simp
  | succ k ih =>
    have pos : 0 < n * 10 ^ k := Nat.mul_pos (Nat.pos_of_ne_zero some) (Nat.pow_pos (by decide))
    have last := Nat.toDigits_append_toDigits (b := 10) (d := 0) (by decide) pos (by decide)
    rw [Nat.pow_succ', Nat.mul_left_comm, ← Nat.add_zero (10 * _), ← last, List.length_append, ih]
    rfl

/-- Zeros behind the digits and a smaller exponent make no difference. -/
theorem ofDecimal_shifted (negative : Bool) (digits k : Nat) (exponent : Int) :
    ofDecimal negative (digits * 10 ^ k) (exponent - k) = ofDecimal negative digits exponent := by
  by_cases some : digits = 0
  · simp [ofDecimal, some]
  have some' : digits * 10 ^ k ≠ 0 := Nat.mul_ne_zero some (Nat.ne_of_gt (Nat.pow_pos (by decide)))
  have length := length_toDigits_shifted some k
  by_cases high : 310 < ((Nat.toDigits 10 digits).length : Int) + exponent
  · simp only [ofDecimal, some, some', if_false]
    rw [if_pos (by omega), if_pos high]
  by_cases low : ((Nat.toDigits 10 digits).length : Int) + exponent < -400
  · simp only [ofDecimal, some, some', if_false]
    rw [if_neg (by omega), if_pos (by omega), if_neg high, if_pos low]
  obtain ⟨num, den, pos, same⟩ := exists_fraction digits exponent
  have shifted : (num / den : ℚ) = (digits * 10 ^ k : Nat) * 10 ^ (exponent - k) := by
    rw [same, zpow_sub₀ (by norm_num), zpow_natCast]
    push_cast
    field_simp
  rw [ofDecimal_eq negative some (by omega) (by omega) pos same,
    ofDecimal_eq negative some' (by omega) (by omega) pos shifted]

/-! ### The decimal of a double -/

theorem exactDecimal_value (x : Binary64) :
    (x.exactDecimal.1 * 10 ^ x.exactDecimal.2 : ℚ) = x.magnitude := by
  unfold exactDecimal magnitude
  split
  · rename_i nonneg
    push_cast
    rw [power_two_cast nonneg, mul_one]
  · obtain ⟨n, same⟩ := Int.eq_ofNat_of_zero_le (show 0 ≤ -x.exponent by omega)
    have exponent : x.exponent = -(n : Int) := by omega
    have split : (10 : ℚ) ^ n = 5 ^ n * 2 ^ n := by rw [← mul_pow]; norm_num
    simp only [exponent, neg_neg, power, Int.toNat_natCast, zpow_neg, zpow_natCast, split, Nat.pow_eq]
    push_cast
    field_simp

/-- Powers of five fall behind powers of ten by as many digits as the power of two has. -/
theorem ten_pow_le_five_pow {n k : Nat} (twos : 2 ^ n ≤ 10 ^ k) (reach : k ≤ n) :
    10 ^ (n - k) ≤ 5 ^ n := by
  have scaled : 10 ^ (n - k) * 10 ^ k ≤ 5 ^ n * 10 ^ k :=
    calc 10 ^ (n - k) * 10 ^ k = 10 ^ n := Nat.pow_sub_mul_pow 10 reach
      _ = 5 ^ n * 2 ^ n := by rw [← Nat.mul_pow]
      _ ≤ 5 ^ n * 10 ^ k := Nat.mul_le_mul_left _ twos
  exact Nat.le_of_mul_le_mul_right scaled (Nat.pow_pos (by decide))

theorem two_pow_le {n : Nat} (small : n ≤ 1074) : 2 ^ n ≤ 10 ^ 401 :=
  (Nat.pow_le_pow_right (by decide) small).trans (by decide +kernel)

theorem length_toDigits_mul_two_pow {m n : Nat} (short : m < 2 ^ 53) (greatest : n ≤ 971) :
    (Nat.toDigits 10 (m * 2 ^ n)).length ≤ 310 := by
  rw [Nat.length_toDigits_le_iff (by decide) (by decide)]
  calc m * 2 ^ n ≤ 2 ^ 53 * 2 ^ 971 :=
        Nat.mul_le_mul (Nat.le_of_lt short) (Nat.pow_le_pow_right (by decide) greatest)
    _ < 10 ^ 310 := by decide +kernel

theorem length_toDigits_mul_five_pow {m n : Nat} (some : m ≠ 0) (short : m < 2 ^ 53) (least : n ≤ 1074) :
    n ≤ 400 + (Nat.toDigits 10 (m * 5 ^ n)).length ∧
      (Nat.toDigits 10 (m * 5 ^ n)).length ≤ 310 + n := by
  constructor
  -- With fewer digits the product would be less than its power of five.
  · by_contra below
    have few : (Nat.toDigits 10 (m * 5 ^ n)).length ≤ n - 401 := by omega
    have digit : 0 < (Nat.toDigits 10 (m * 5 ^ n)).length := Nat.length_toDigits_pos
    have small := (Nat.length_toDigits_le_iff (by decide) (by omega)).mp few
    have large : 5 ^ n ≤ m * 5 ^ n := Nat.le_mul_of_pos_left _ (Nat.pos_of_ne_zero some)
    have between := ten_pow_le_five_pow (two_pow_le least) (by omega)
    exact Nat.lt_irrefl _ (Nat.lt_of_lt_of_le small (between.trans large))
  · have bound : m * 5 ^ n < 10 ^ (310 + n) :=
      calc m * 5 ^ n ≤ 10 ^ 16 * 10 ^ n :=
            Nat.mul_le_mul (by omega) (Nat.pow_le_pow_left (by decide) n)
        _ = 10 ^ (16 + n) := by rw [Nat.pow_add]
        _ < 10 ^ (310 + n) := Nat.pow_lt_pow_right (by decide) (by omega)
    exact (Nat.length_toDigits_le_iff (by decide) (by omega)).mpr bound

/-- The exact expansion of a double is neither too large nor too small to be read. -/
theorem exactDecimal_bounds {x : Binary64} (canonical : x.Canonical) (some : x.mantissa ≠ 0) :
    x.exactDecimal.1 ≠ 0 ∧
      -400 ≤ ((Nat.toDigits 10 x.exactDecimal.1).length : Int) + x.exactDecimal.2 ∧
      ((Nat.toDigits 10 x.exactDecimal.1).length : Int) + x.exactDecimal.2 ≤ 310 := by
  have short := canonical.short
  have least := canonical.least
  have greatest := canonical.greatest
  simp only [mantissaBound, leastExponent, greatestExponent] at short least greatest
  unfold exactDecimal
  split
  · rename_i nonneg
    obtain ⟨n, same⟩ := Int.eq_ofNat_of_zero_le nonneg
    simp only [same, power, Int.toNat_natCast, Nat.pow_eq]
    have length := length_toDigits_mul_two_pow short (n := n) (by omega)
    exact ⟨Nat.mul_ne_zero some (Nat.ne_of_gt (Nat.pow_pos (by decide))), by omega, by omega⟩
  · obtain ⟨n, same⟩ := Int.eq_ofNat_of_zero_le (show 0 ≤ -x.exponent by omega)
    simp only [same, power, Int.toNat_natCast, Nat.pow_eq]
    have length := length_toDigits_mul_five_pow some short (n := n) (by omega)
    exact ⟨Nat.mul_ne_zero some (Nat.ne_of_gt (Nat.pow_pos (by decide))), by omega, by omega⟩

theorem readsBack_exactDecimal {x : Binary64} (canonical : x.Canonical) (some : x.mantissa ≠ 0) :
    x.readsBack x.exactDecimal = true := by
  obtain ⟨digits, low, high⟩ := exactDecimal_bounds canonical some
  obtain ⟨num, den, pos, same⟩ := exists_fraction x.exactDecimal.1 x.exactDecimal.2
  rw [readsBack, ofDecimal_eq x.negative digits low high pos same,
    ofRatio_exact canonical pos (same.trans (exactDecimal_value x))]
  exact beq_self_eq_true _

theorem readsBack_candidate {x : Binary64} {count : Nat} {decimal : Nat × Int}
    (found : x.candidate count = some decimal) : x.readsBack decimal = true :=
  List.find?_some found

/-- What is written for a double is read as that double. -/
theorem readsBack_shortest {x : Binary64} (canonical : x.Canonical) :
    ofDecimal x.negative x.shortest.1 x.shortest.2 = some x := by
  unfold shortest
  split
  · rename_i none
    have least := canonical.least_of_zero none
    obtain ⟨negative, mantissa, exponent⟩ := x
    simp_all [ofDecimal, zero]
  · rename_i some
    cases searched : (List.range' 1 17).findSome? x.candidate with
    | none => exact beq_iff_eq.mp (readsBack_exactDecimal canonical some)
    | some decimal =>
      obtain ⟨count, _, found⟩ := List.exists_of_findSome?_eq_some searched
      exact beq_iff_eq.mp (readsBack_candidate found)

end Relay.Binary64
