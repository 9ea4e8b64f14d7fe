import Relay.Proofs.Decimal.Stepwise
import Relay.Proofs.Json.ReadBack

/-!
# Number texts are read

Every number that a text can hold is written as a text of that number: a whole number in its digits, a double
in places or with an exponent, as its size asks for. A whole number is read as itself from its text. A double is
read as some double: the decimal in its text is nearest to it, and the significand of that decimal is cut, if at all,
to a smaller value.
-/

namespace Relay

namespace Text

theorem digitsValue_zeros_append (k : Nat) (cs : List Char) :
    digitsValue (List.replicate k '0' ++ cs) = digitsValue cs := by
  rw [digitsValue, Nat.ofDigitChars_append, Nat.ofDigitChars_replicate_zero, Nat.mul_zero]
  rfl

theorem digitsValue_append_zeros (cs : List Char) (k : Nat) :
    digitsValue (cs ++ List.replicate k '0') = digitsValue cs * 10 ^ k := by
  rw [digitsValue, Nat.ofDigitChars_append, Nat.ofDigitChars_replicate_zero, Nat.mul_comm]
  rfl

/-- Only the digits of zero begin with a zero. -/
theorem eq_zero_of_head_natDigits {n : Nat} (leading : (natDigits n).head? = some '0') : n = 0 := by
  induction n using Nat.strongRecOn with
  | ind n ih =>
    rcases Nat.lt_or_ge n 10 with small | large
    · rw [natDigits, Nat.toDigits_of_lt_base small] at leading
      have first : ∀ n < 10, [n.digitChar].head? = some '0' → n = 0 := by decide
      exact first n small leading
    · have some : Nat.toDigits 10 (n / 10) ≠ [] := Nat.toDigits_ne_nil
      rw [natDigits, Nat.toDigits_of_base_le (by decide) large, List.head?_append_of_ne_nil _ some] at leading
      have front : n / 10 = 0 := ih (n / 10) (by omega) leading
      omega

end Text

namespace Json
open Text

/-! ### Texts of numbers -/

/-- One digit or more. -/
structure IsDigits (cs : List Char) : Prop where
  some : cs ≠ []
  all : ∀ c ∈ cs, c.isDigit = true

theorem isDigits_natDigits (n : Nat) : IsDigits (natDigits n) :=
  ⟨natDigits_ne_nil n, fun _ present => isDigit_of_mem_natDigits present⟩

theorem isDigits_zero : IsDigits ['0'] :=
  isDigits_natDigits 0

theorem IsDigits.cons {c : Char} {cs : List Char} (digits : IsDigits (c :: cs)) :
    c.isDigit = true ∧ ∀ d ∈ cs, d.isDigit = true :=
  ⟨digits.all c List.mem_cons_self, fun d present => digits.all d (List.mem_cons_of_mem _ present)⟩

/-- A run of a class of characters ends where another character, or none, comes next. -/
theorem takeWhile_run {inside : Char → Bool} {run rest : List Char} (all : ∀ c ∈ run, inside c = true)
    (stops : ∀ c ∈ rest.head?, inside c = false) :
    (run ++ rest).takeWhile inside = run ∧ (run ++ rest).dropWhile inside = rest := by
  rw [List.takeWhile_append_of_pos all, List.dropWhile_append_of_pos all]
  cases rest with
  | nil => simp
  | cons c rest =>
    have stop : inside c = false := stops c rfl
    simp [stop]

/-- No digit comes first. -/
def StopsDigits (cs : List Char) : Prop := ∀ c ∈ cs.head?, c.isDigit = false

theorem IsDigits.takeWhile {ds rest : List Char} (digits : IsDigits ds) (stops : StopsDigits rest) :
    (ds ++ rest).takeWhile Char.isDigit = ds ∧ (ds ++ rest).dropWhile Char.isDigit = rest :=
  takeWhile_run digits.all stops

/-- A fraction that is written behind a point. -/
def fractionChars : Option (List Char) → List Char
  | none => []
  | some digits => '.' :: digits

/-- An exponent that is written behind its letter, with a sign always. -/
def exponentChars : Option Int → List Char
  | none => []
  | some power => 'e' :: (if power < 0 then '-' else '+') :: natDigits power.natAbs

namespace NumberText

/-- The text behind the sign. -/
def unsigned (t : NumberText) : List Char :=
  t.whole ++ (fractionChars t.fraction ++ exponentChars t.exponent)

/-- A text that a reader takes whole: digits on both sides of a point, and no zero too many. -/
structure Regular (t : NumberText) : Prop where
  whole : IsDigits t.whole
  leading : t.whole.head? = some '0' → t.whole.length = 1
  fraction : ∀ digits ∈ t.fraction, IsDigits digits

end NumberText

theorem stopsDigits_exponent (exponent : Option Int) {rest : List Char} (ends : EndsNumber rest) :
    StopsDigits (exponentChars exponent ++ rest) := by
  cases exponent with
  | none => exact fun c first => (ends c first).1
  | some power =>
    intro c first
    cases first
    decide

theorem stopsDigits_fraction (fraction : Option (List Char)) (exponent : Option Int) {rest : List Char}
    (ends : EndsNumber rest) : StopsDigits (fractionChars fraction ++ (exponentChars exponent ++ rest)) := by
  cases fraction with
  | none => exact stopsDigits_exponent exponent ends
  | some digits =>
    intro c first
    cases first
    decide

theorem scanFraction_written (fraction : Option (List Char)) (digits : ∀ ds ∈ fraction, IsDigits ds)
    (exponent : Option Int) {rest : List Char} (ends : EndsNumber rest) :
    scanFraction (fractionChars fraction ++ (exponentChars exponent ++ rest)) =
      .ok (fraction, exponentChars exponent ++ rest) := by
  cases fraction with
  | none =>
    cases exponent with
    | some power => rfl
    | none =>
      cases rest with
      | nil => rfl
      | cons c rest =>
        have stop : c ≠ '.' := (ends c rfl).2.1
        simp [fractionChars, exponentChars, scanFraction, stop]
  | some ds =>
    have digits := digits ds rfl
    obtain ⟨taken, left⟩ := digits.takeWhile (stopsDigits_exponent exponent ends)
    simp [fractionChars, scanFraction, taken, left, digits.some]

theorem scanExponent_written (exponent : Option Int) {rest : List Char} (ends : EndsNumber rest) :
    scanExponent (exponentChars exponent ++ rest) = .ok (exponent, rest) := by
  cases exponent with
  | none =>
    cases rest with
    | nil => rfl
    | cons c rest =>
      obtain ⟨-, -, lower, upper⟩ := ends c rfl
      simp [exponentChars, scanExponent, lower, upper]
  | some power =>
    have digits := isDigits_natDigits power.natAbs
    have stops : StopsDigits rest := fun c first => (ends c first).1
    obtain ⟨taken, left⟩ := digits.takeWhile stops
    have value : (if power < 0 then -(power.natAbs : Int) else power.natAbs) = power := by split <;> omega
    by_cases negative : power < 0 <;>
    · simp only [negative, if_true, if_false] at value
      simp [exponentChars, scanExponent, scanExponentDigits, negative, taken, left, digits.some,
        digitsValue_natDigits, value, -Nat.cast_natAbs]

theorem scanNumber_written {t : NumberText} (regular : t.Regular) {rest : List Char}
    (ends : EndsNumber rest) : scanNumber t.negative (t.unsigned ++ rest) = .ok (t, rest) := by
  obtain ⟨taken, left⟩ := regular.whole.takeWhile (stopsDigits_fraction t.fraction t.exponent ends)
  have fraction := scanFraction_written t.fraction regular.fraction t.exponent ends
  have exponent := scanExponent_written t.exponent ends
  have leading : (t.whole.head? == some '0' && t.whole.length != 1) = false := by
    simpa using regular.leading
  have some : t.whole.isEmpty = false := by simpa using regular.whole.some
  rw [NumberText.unsigned, List.append_assoc, List.append_assoc]
  simp only [scanNumber, taken, left, some, leading, fraction, exponent, Bool.false_eq_true, if_false,
    bind, Except.bind, pure, Except.pure]

/-! ### The number of a text -/

/-- What reading can make of the text of a number. -/
def Number.Valid : Number → Prop
  | .whole n => Number.InRange n
  | .real x => x.Canonical

theorem NumberText.real_valid {t : NumberText} {n : Number} (read : t.real = .ok n) : n.Valid := by
  unfold NumberText.real at read
  split at read <;> cases read
  rename_i found
  exact Binary64.canonical_ofSteps found

theorem NumberText.value_valid {t : NumberText} {n : Number} (read : t.value = .ok n) : n.Valid := by
  unfold NumberText.value at read
  split at read
  · obtain ⟨signed, same⟩ : ∃ signed : Int, signed =
        if t.negative then -(digitsValue t.whole : Int) else digitsValue t.whole := ⟨_, rfl⟩
    simp only [← same] at read
    split at read
    · rename_i range
      cases read
      have inside : Number.InRange signed := of_decide_eq_true (Bool.and_eq_true_iff.mp range).1
      exact inside
    · exact real_valid read
  · exact real_valid read

theorem NumberText.value_whole (n : Int) (range : Number.InRange n) :
    NumberText.value ⟨decide (n < 0), natDigits n.natAbs, none, none⟩ = .ok (.whole n) := by
  have same : (if n < 0 then -(n.natAbs : Int) else n.natAbs) = n := by split <;> omega
  have zero : (decide (n < 0) && n.natAbs == 0) = false := by
    by_cases negative : n < 0
    · have some : n.natAbs ≠ 0 := by omega
      simpa [negative] using some
    · simp [negative]
  simp only [NumberText.value, digitsValue_natDigits, decide_eq_true_eq, same, range, zero]
  rfl

theorem NumberText.value_real {t : NumberText} (shown : t.fraction ≠ none ∨ t.exponent ≠ none) :
    t.value = t.real := by
  unfold NumberText.value
  split
  · simp_all
  · rfl

/-! ### The significand of a number -/

theorem gather_eq {significand : Nat} (fits : significand < significandBound) (cs : List Char) :
    ∃ taken rest, cs = taken ++ rest ∧ gather significand cs = (Nat.ofDigitChars 10 taken significand, rest) ∧
      Nat.ofDigitChars 10 taken significand < significandBound ∧
      ∀ c ∈ rest.head?, significandBound ≤ 10 * Nat.ofDigitChars 10 taken significand + (c.toNat - '0'.toNat) := by
  induction cs generalizing significand with
  | nil => exact ⟨[], [], rfl, rfl, fits, by simp⟩
  | cons c cs ih =>
    rw [gather]
    split
    · rename_i longer
      obtain ⟨taken, rest, rfl, gathered, fits, stops⟩ := ih longer
      exact ⟨c :: taken, rest, rfl, gathered, fits, stops⟩
    · rename_i longer
      refine ⟨[], c :: cs, rfl, rfl, fits, ?_⟩
      rintro _ ⟨⟩
      exact Nat.le_of_not_lt longer

/-- Digits count for their places and for what they are. -/
theorem ofDigitChars_append_le (front back : List Char) (significand : Nat) :
    Nat.ofDigitChars 10 front significand * 10 ^ back.length ≤ Nat.ofDigitChars 10 (front ++ back) significand := by
  rw [Nat.ofDigitChars_append, Nat.ofDigitChars_eq_ofDigitChars_zero (l := back), Nat.mul_comm]
  exact Nat.le_add_right _ _

/-- What is gathered from two runs of digits. Digits of the second run may still join the significand where those of
the first one no longer did, and then they stand in the place of a greater digit. -/
theorem gathered_le {front passed back ignored : List Char}
    (stops : ∀ c ∈ passed.head?, significandBound ≤ 10 * Nat.ofDigitChars 10 front 0 + (c.toNat - '0'.toNat))
    (fits : Nat.ofDigitChars 10 back (Nat.ofDigitChars 10 front 0) < significandBound) :
    Nat.ofDigitChars 10 back (Nat.ofDigitChars 10 front 0) * 10 ^ (passed.length + ignored.length) ≤
      digitsValue (front ++ passed ++ (back ++ ignored)) := by
  cases passed with
  | nil =>
    have cut := ofDigitChars_append_le (front ++ back) ignored 0
    rw [Nat.ofDigitChars_append] at cut
    simpa [digitsValue] using cut
  | cons d ds =>
    cases back with
    | nil => simpa [digitsValue, Nat.add_right_comm] using ofDigitChars_append_le front (d :: ds ++ ignored) 0
    | cons b bs =>
      have greater : Nat.ofDigitChars 10 (b :: bs) (Nat.ofDigitChars 10 front 0) ≤
          Nat.ofDigitChars 10 (front ++ [d]) 0 := by
        rw [Nat.ofDigitChars_append (l := front)]
        exact Nat.le_of_lt (Nat.lt_of_lt_of_le fits (stops d rfl))
      have cut := ofDigitChars_append_le (front ++ [d]) (ds ++ (b :: bs ++ ignored)) 0
      have places : (d :: ds).length + ignored.length ≤ (ds ++ (b :: bs ++ ignored)).length := by
        simp only [List.length_cons, List.length_append]
        omega
      calc _ ≤ Nat.ofDigitChars 10 (front ++ [d]) 0 * 10 ^ (ds ++ (b :: bs ++ ignored)).length :=
            Nat.mul_le_mul greater (Nat.pow_le_pow_right (by decide) places)
        _ ≤ _ := by simpa [digitsValue] using cut

/-- The significand of a text fits 64 bits, and what it stands for is no greater than the decimal in the text. -/
theorem NumberText.parts_le (t : NumberText) : t.parts.1 < significandBound ∧
    (t.parts.1 * 10 ^ t.parts.2 : ℚ) ≤
      digitsValue (t.whole ++ t.fraction.getD []) * 10 ^ (t.exponent.getD 0 - (t.fraction.getD []).length) := by
  obtain ⟨front, passed, whole, first, fits, stops⟩ := gather_eq (show 0 < significandBound by decide) t.whole
  obtain ⟨back, ignored, fraction, second, fits', -⟩ := gather_eq fits (t.fraction.getD [])
  have bound : (Nat.ofDigitChars 10 back (Nat.ofDigitChars 10 front 0) *
      10 ^ (passed.length + ignored.length) : ℚ) ≤ digitsValue (t.whole ++ t.fraction.getD []) := by
    rw [whole, fraction]
    exact_mod_cast gathered_le stops fits'
  have places : t.exponent.getD 0 + passed.length + ignored.length - (t.fraction.getD []).length =
      ((passed.length + ignored.length : Nat) : Int) + (t.exponent.getD 0 - (t.fraction.getD []).length) := by
    omega
  simp only [parts, first, second, places]
  refine ⟨fits', ?_⟩
  rw [zpow_add₀ (by norm_num), zpow_natCast, ← mul_assoc]
  exact mul_le_mul_of_nonneg_right bound (by positivity)

/-- A text whose decimal is nearest to a double, but not to one of the two greatest, is read as a double. -/
theorem NumberText.exists_real {t : NumberText} {x : Binary64} (canonical : x.Canonical)
    (less : x.exponent < Binary64.greatestExponent ∨ x.mantissa + 2 < Binary64.mantissaBound)
    (nearest : Binary64.ofDecimal t.negative (digitsValue (t.whole ++ t.fraction.getD []))
      (t.exponent.getD 0 - (t.fraction.getD []).length) = some x) :
    ∃ y, t.real = .ok (.real y) := by
  obtain ⟨fits, cut⟩ := t.parts_le
  have within := (cut.trans (Binary64.le_of_ofDecimal nearest)).trans (Binary64.le_reach canonical less)
  obtain ⟨y, read⟩ := Binary64.exists_ofSteps t.negative fits within
  exact ⟨y, by rw [real, read]⟩

/-! ### The text of a number -/

theorem isSpace_of_isDigit {c : Char} (digit : c.isDigit = true) : isSpace c = false := by
  apply Classical.byContradiction
  intro space
  simp only [isSpace, Bool.not_eq_false, Bool.or_eq_true, decide_eq_true_eq] at space
  rcases space with ((rfl | rfl) | rfl) | rfl <;> cases digit

theorem token_of_isDigit {c : Char} (digit : c.isDigit = true) (cs : List Char) :
    token c cs = numberToken false (c :: cs) := by
  unfold token
  split <;> first | rfl | (cases digit) | simp only [digit, if_true]

/-- A number is read as what its text denotes. -/
theorem readsAs_of_text {n m : Number} (t : NumberText) (regular : t.Regular) (value : t.value = .ok m)
    (written : n.chars = if t.negative then '-' :: t.unsigned else t.unsigned) : n.ReadsAs m := by
  intro rest ends
  have scanned : numberToken t.negative (t.unsigned ++ rest) = (.num (.ok m), rest) := by
    rw [numberToken, scanNumber_written regular ends, ← value]
  cases negative : t.negative with
  | true =>
    rw [negative] at scanned
    exact ⟨'-', t.unsigned, by rw [written, negative]; rfl, by decide, scanned⟩
  | false =>
    rw [negative] at scanned
    cases whole : t.whole with
    | nil => exact absurd whole regular.whole.some
    | cons c cs =>
      have digit : c.isDigit = true := regular.whole.all c (by rw [whole]; exact List.mem_cons_self)
      refine ⟨c, cs ++ (fractionChars t.fraction ++ exponentChars t.exponent), ?_,
        isSpace_of_isDigit digit, ?_⟩
      · rw [written, negative, NumberText.unsigned, whole]
        rfl
      · rw [token_of_isDigit digit, ← scanned, NumberText.unsigned, whole]
        rfl

/-- A whole number is read back. -/
theorem readsAs_whole {n : Int} (range : Number.InRange n) : (Number.whole n).ReadsAs (.whole n) := by
  refine readsAs_of_text ⟨decide (n < 0), natDigits n.natAbs, none, none⟩
    ⟨isDigits_natDigits _, ?_, by simp⟩ (NumberText.value_whole n range) ?_
  · intro leading
    have zero : n.natAbs = 0 := eq_zero_of_head_natDigits leading
    rw [zero]
    rfl
  · simp [Number.chars, Number.wholeChars, NumberText.unsigned, fractionChars, exponentChars]

/-! ### The text of a double -/

/-- A text of a double, whose decimal is nearest to the same double as another decimal. -/
structure NumberText.Spells (t : NumberText) (digits : Nat) (exponent : Int) : Prop where
  regular : t.Regular
  shown : t.fraction ≠ none ∨ t.exponent ≠ none
  value : Binary64.ofDecimal t.negative (digitsValue (t.whole ++ t.fraction.getD []))
    (t.exponent.getD 0 - (t.fraction.getD []).length) = Binary64.ofDecimal t.negative digits exponent

theorem isDigits_zeros_append (k : Nat) {ds : List Char} (digits : IsDigits ds) :
    IsDigits (List.replicate k '0' ++ ds) := by
  refine ⟨by simpa using fun _ => digits.some, fun c present => ?_⟩
  rcases List.mem_append.mp present with zeros | present
  · rw [(List.mem_replicate.mp zeros).2]
    rfl
  · exact digits.all c present

theorem isDigits_append_zeros (k : Nat) {ds : List Char} (digits : IsDigits ds) :
    IsDigits (ds ++ List.replicate k '0') := by
  refine ⟨by simpa using fun none => absurd none digits.some, fun c present => ?_⟩
  rcases List.mem_append.mp present with present | zeros
  · exact digits.all c present
  · rw [(List.mem_replicate.mp zeros).2]
    rfl

theorem length_natDigits_pos (n : Nat) : 0 < (natDigits n).length :=
  List.length_pos_iff.mpr (natDigits_ne_nil n)

/-- Zeros between the point and the digits. -/
theorem fraction_spelled (negative : Bool) (digits k : Nat) {exponent : Int}
    (places : exponent = -(k + (natDigits digits).length)) :
    NumberText.Spells ⟨negative, ['0'], some (List.replicate k '0' ++ natDigits digits), none⟩ digits
      exponent := by
  have fraction := isDigits_zeros_append k (isDigits_natDigits digits)
  have value := digitsValue_zeros_append (k + 1) (natDigits digits)
  rw [List.replicate_succ, List.cons_append, digitsValue_natDigits] at value
  have shift : (0 : Int) - (List.replicate k '0' ++ natDigits digits).length = exponent := by
    rw [List.length_append, List.length_replicate]
    omega
  refine ⟨⟨isDigits_zero, fun _ => rfl, by simpa using fraction⟩, .inl (by simp), ?_⟩
  simp only [List.cons_append, List.nil_append, Option.getD_some, Option.getD_none, value, shift]

/-- Zeros between the digits and the point, and one behind it. -/
theorem padded_spelled (negative : Bool) {digits k : Nat} (zero : digits = 0 → k = 0) :
    NumberText.Spells ⟨negative, natDigits digits ++ List.replicate k '0', some ['0'], none⟩ digits k := by
  refine ⟨⟨isDigits_append_zeros k (isDigits_natDigits digits), ?_, ?_⟩, .inl (by simp), ?_⟩
  · intro first
    rw [List.head?_append_of_ne_nil _ (natDigits_ne_nil _)] at first
    have none : digits = 0 := eq_zero_of_head_natDigits first
    rw [zero none, none]
    rfl
  · rintro _ ⟨⟩
    exact isDigits_zero
  · have value := digitsValue_append_zeros (natDigits digits) (k + 1)
    rw [List.replicate_succ', digitsValue_natDigits] at value
    have shift : (k : Int) - ((k + 1 : Nat) : Int) = 0 - 1 := by omega
    have same := Binary64.ofDecimal_shifted negative digits (k + 1) k
    rw [shift] at same
    simpa [value] using same

/-- The point among the digits. -/
theorem parted_spelled (negative : Bool) {digits places : Nat} {exponent : Int} (some' : places ≠ 0)
    (inside : places < (natDigits digits).length)
    (shift : exponent = (places : Int) - (natDigits digits).length) :
    NumberText.Spells
      ⟨negative, (natDigits digits).take places, some ((natDigits digits).drop places), none⟩ digits
      exponent := by
  have all := isDigits_natDigits digits
  have front : IsDigits ((natDigits digits).take places) :=
    ⟨by simpa [some'] using all.some, fun c present => all.all c (List.mem_of_mem_take present)⟩
  have back : IsDigits ((natDigits digits).drop places) :=
    ⟨by simpa using inside, fun c present => all.all c (List.mem_of_mem_drop present)⟩
  refine ⟨⟨front, ?_, ?_⟩, .inl (by simp), ?_⟩
  · intro first
    rw [List.head?_take, if_neg some'] at first
    have none : digits = 0 := eq_zero_of_head_natDigits first
    have short : (natDigits digits).length = 1 := by rw [none]; rfl
    omega
  · rintro _ ⟨⟩
    exact back
  · have same : (0 : Int) - ((natDigits digits).drop places).length = exponent := by
      rw [List.length_drop]
      omega
    simp only [Option.getD_some, Option.getD_none, List.take_append_drop, digitsValue_natDigits, same]

theorem positional_spelled (negative : Bool) {digits : Nat} {exponent : Int}
    (zero : digits = 0 → exponent = 0) {power : Int}
    (leading : power = exponent + (natDigits digits).length - 1) :
    ∃ t : NumberText, t.negative = negative ∧
      t.unsigned = Number.positional (natDigits digits) power ∧ t.Spells digits exponent := by
  have one := length_natDigits_pos digits
  unfold Number.positional
  split
  · refine ⟨_, rfl, ?_, fraction_spelled negative digits (-power - 1).toNat (by omega)⟩
    simp [NumberText.unsigned, fractionChars, exponentChars]
  · dsimp only
    split
    · obtain ⟨k, padding⟩ : ∃ k, k = power.toNat + 1 - (natDigits digits).length := ⟨_, rfl⟩
      have same : exponent = k := by omega
      rw [← padding, same]
      refine ⟨_, rfl, ?_, padded_spelled negative fun none => by have := zero none; omega⟩
      simp [NumberText.unsigned, fractionChars, exponentChars]
    · have some : power.toNat + 1 ≠ 0 := Nat.succ_ne_zero _
      refine ⟨_, rfl, ?_, parted_spelled negative some (by omega) (by omega)⟩
      simp [NumberText.unsigned, fractionChars, exponentChars]

theorem scientific_spelled (negative : Bool) {digits : Nat} {exponent power : Int}
    (leading : power = exponent + (natDigits digits).length - 1) :
    ∃ t : NumberText, t.negative = negative ∧
      t.unsigned = Number.scientific (natDigits digits) power ∧ t.Spells digits exponent := by
  have all := isDigits_natDigits digits
  have value := digitsValue_natDigits digits
  obtain ⟨c, cs, split⟩ := List.exists_cons_of_ne_nil all.some
  rw [split] at all leading value ⊢
  have whole : IsDigits [c] := ⟨by simp, by simpa using all.cons.1⟩
  rw [List.length_cons] at leading
  cases cs with
  | nil =>
    refine ⟨⟨negative, [c], none, some power⟩, rfl, rfl, ⟨whole, fun _ => rfl, by simp⟩, .inr (by simp), ?_⟩
    have same : power = exponent := by simpa using leading
    simp [value, same]
  | cons d ds =>
    have fraction : IsDigits (d :: ds) := ⟨by simp, all.cons.2⟩
    refine ⟨⟨negative, [c], some (d :: ds), some power⟩, rfl, ?_, ⟨whole, fun _ => rfl, ?_⟩,
      .inr (by simp), ?_⟩
    · simp [NumberText.unsigned, fractionChars, exponentChars, Number.scientific]
    · rintro _ ⟨⟩
      exact fraction
    · have shift : power - ((d :: ds).length : Int) = exponent := by omega
      simp only [Option.getD_some, List.singleton_append, value, shift]

theorem exists_digit_signed {body : List Char} (digit : ∃ c ∈ body, c.isDigit = true) (negative : Prop)
    [Decidable negative] : ∃ c ∈ if negative then '-' :: body else body, c.isDigit = true := by
  split
  · exact digit.imp fun c both => ⟨List.mem_cons_of_mem _ both.1, both.2⟩
  · exact digit

/-- A number is written with one digit at least. -/
theorem Number.exists_digit (n : Number) : ∃ c ∈ n.chars, c.isDigit = true := by
  cases n with
  | whole n =>
    obtain ⟨c, cs, split⟩ := List.exists_cons_of_ne_nil (natDigits_ne_nil n.natAbs)
    exact exists_digit_signed ⟨c, split ▸ List.mem_cons_self, (split ▸ isDigits_natDigits n.natAbs).cons.1⟩ _
  | real x =>
    rw [chars, realChars]
    obtain ⟨value, exponent⟩ := x.shortest
    obtain ⟨c, cs, split⟩ := List.exists_cons_of_ne_nil (natDigits_ne_nil value)
    have digit := (split ▸ isDigits_natDigits value).cons.1
    refine exists_digit_signed ?_ _
    rw [split]
    split
    · unfold positional
      split
      · exact ⟨'0', List.mem_cons_self, rfl⟩
      · refine ⟨c, ?_, digit⟩
        dsimp only
        split <;> simp
    · exact ⟨c, by simp [scientific], digit⟩

theorem shortest_zero {x : Binary64} (canonical : x.Canonical) (none : x.shortest.1 = 0) :
    x.shortest.2 = 0 := by
  have read := Binary64.readsBack_shortest canonical
  rw [none, Binary64.ofDecimal, if_pos rfl] at read
  have zero : x.mantissa = 0 := by rw [← Option.some.inj read]; rfl
  rw [Binary64.shortest, if_pos zero]

/-- The text of one of the two greatest doubles, in which the last digit tells them apart. -/
def greatestText (negative : Bool) (last : Char) : NumberText :=
  ⟨negative, ['1'], some ['7', '9', '7', '6', '9', '3', '1', '3', '4', '8', '6', '2', '3', '1', '5', last], some 308⟩

theorem regular_greatestText (negative : Bool) {last : Char} (digit : last.isDigit = true) :
    (greatestText negative last).Regular := by
  refine ⟨⟨by simp [greatestText], by simp [greatestText]⟩, by simp [greatestText], ?_⟩
  rintro _ ⟨⟩
  exact ⟨by simp, by simpa [List.forall_mem_cons] using digit⟩

/-- The two greatest doubles are too great for the bounds of all others. Both are read as the greatest one. -/
theorem readsAs_greatest {negative : Bool} {mantissa : Nat} {last : Char}
    (either : mantissa + 1 = Binary64.mantissaBound ∧ last = '7' ∨ mantissa + 2 = Binary64.mantissaBound ∧ last = '5') :
    (Number.real ⟨negative, mantissa, Binary64.greatestExponent⟩).ReadsAs
      (.real ⟨negative, Binary64.mantissaBound - 1, Binary64.greatestExponent⟩) := by
  have digit : last.isDigit = true := by rcases either with ⟨-, rfl⟩ | ⟨-, rfl⟩ <;> rfl
  have steps : Binary64.ofSteps negative (greatestText negative last).parts.1 (greatestText negative last).parts.2 =
      some ⟨negative, Binary64.mantissaBound - 1, Binary64.greatestExponent⟩ := by
    rcases either with ⟨-, rfl⟩ | ⟨-, rfl⟩ <;> cases negative <;> decide +kernel
  have value : (greatestText negative last).value =
      .ok (.real ⟨negative, Binary64.mantissaBound - 1, Binary64.greatestExponent⟩) := by
    rw [NumberText.value_real (.inr (by simp [greatestText])), NumberText.real]
    simp only [greatestText] at steps ⊢
    rw [steps]
  refine readsAs_of_text (greatestText negative last) (regular_greatestText negative digit) value ?_
  rcases either with ⟨great, rfl⟩ | ⟨great, rfl⟩
  · obtain rfl : mantissa = Binary64.mantissaBound - 1 := by omega
    cases negative <;> decide +kernel
  · obtain rfl : mantissa = Binary64.mantissaBound - 2 := by omega
    cases negative <;> decide +kernel

theorem readsAs_real {x : Binary64} (canonical : x.Canonical) : ∃ y, (Number.real x).ReadsAs (.real y) := by
  by_cases great : x.exponent = Binary64.greatestExponent ∧
      (x.mantissa + 1 = Binary64.mantissaBound ∨ x.mantissa + 2 = Binary64.mantissaBound)
  · obtain ⟨negative, mantissa, exponent⟩ := x
    obtain ⟨rfl, great | great⟩ := great
    · exact ⟨_, readsAs_greatest (.inl ⟨great, rfl⟩)⟩
    · exact ⟨_, readsAs_greatest (.inr ⟨great, rfl⟩)⟩
  have less : x.exponent < Binary64.greatestExponent ∨ x.mantissa + 2 < Binary64.mantissaBound := by
    have short := canonical.short
    have greatest := canonical.greatest
    omega
  obtain ⟨power, leading⟩ :
      ∃ power, power = x.shortest.2 + (natDigits x.shortest.1).length - 1 := ⟨_, rfl⟩
  obtain ⟨t, sign, written, spells⟩ : ∃ t : NumberText, t.negative = x.negative ∧
      t.unsigned = (if Number.layout.least ≤ power && power ≤ Number.layout.greatest then
        Number.positional (natDigits x.shortest.1) power
        else Number.scientific (natDigits x.shortest.1) power) ∧
      t.Spells x.shortest.1 x.shortest.2 := by
    split
    · exact positional_spelled x.negative (shortest_zero canonical) leading
    · exact scientific_spelled x.negative leading
  have nearest := spells.value
  rw [sign, Binary64.readsBack_shortest canonical] at nearest
  obtain ⟨y, read⟩ := NumberText.exists_real canonical less (sign ▸ nearest)
  refine ⟨y, readsAs_of_text t spells.regular ((NumberText.value_real spells.shown).trans read) ?_⟩
  rw [written, sign, Number.chars, Number.realChars, leading]

/-- A number that a text can hold is read as such a number from its own text. -/
theorem Number.Valid.readsAs {n : Number} (valid : n.Valid) : n.ReadsAs n.reread := by
  cases n with
  | whole n => exact (readsAs_whole valid).reread.symm ▸ readsAs_whole valid
  | real x =>
    obtain ⟨y, reads⟩ := readsAs_real valid
    exact reads.reread.symm ▸ reads

end Json
end Relay
