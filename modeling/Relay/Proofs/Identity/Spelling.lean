import Mathlib.Algebra.Order.Ring.Nat
import Relay.Identity.Uuid

/-!
# Spellings of an identifier

An identifier has four forms, and letters may be in either case. `parse_eq_some_iff` says that a text is read
as an identifier exactly when it is, up to the case of letters, one of its forms.
-/

namespace Relay

namespace Text

/-! ### One digit -/

theorem ascii_of_toLower {c : Char} (ascii : c.toLower.toNat < 128) : c.toNat < 128 := by
  unfold Char.toLower at ascii
  split at ascii
  · rename_i upper
    have most : c.toNat ≤ 90 := UInt32.le_iff_toNat_le.mp upper.2
    omega
  · exact ascii

theorem ascii_of_hexValue {c : Char} {digit : Nat} (read : hexValue c = some digit) : c.toNat < 128 := by
  have below : ∀ most : Char, c ≤ most → most.toNat < 128 → c.toNat < 128 := fun _ le ascii =>
    Nat.lt_of_le_of_lt (UInt32.le_iff_toNat_le.mp le) ascii
  simp only [hexValue, Char.isDigit, Bool.and_eq_true, decide_eq_true_eq] at read
  split at read
  · rename_i range
    exact below '9' range.2 (by decide)
  · split at read
    · rename_i range
      exact below 'f' range.2 (by decide)
    · split at read
      · rename_i range
        exact below 'F' range.2 (by decide)
      · cases read

theorem hexValue_ascii_iff : ∀ n < 128, ∀ digit < 16,
    hexValue (Char.ofNat n) = some digit ↔ (Char.ofNat n).toLower = Nat.digitChar digit := by
  decide +kernel

theorem hexValue_ascii_lt : ∀ n < 128, ∀ digit ∈ hexValue (Char.ofNat n), digit < 16 := by
  decide +kernel

theorem ascii_digitChar : ∀ digit < 16, (Nat.digitChar digit).toNat < 128 := by
  decide

theorem hexValue_eq_some_iff {c : Char} {digit : Nat} :
    hexValue c = some digit ↔ digit < 16 ∧ c.toLower = Nat.digitChar digit := by
  have same : Char.ofNat c.toNat = c := Char.ofNat_toNat c
  constructor
  · intro read
    have ascii := ascii_of_hexValue read
    have small : digit < 16 := hexValue_ascii_lt c.toNat ascii digit (by rw [same]; exact read)
    refine ⟨small, ?_⟩
    rw [← same] at read ⊢
    exact (hexValue_ascii_iff c.toNat ascii digit small).mp read
  · rintro ⟨small, lower⟩
    have ascii : c.toNat < 128 := ascii_of_toLower (by rw [lower]; exact ascii_digitChar digit small)
    rw [← same] at lower ⊢
    exact (hexValue_ascii_iff c.toNat ascii digit small).mpr lower

theorem mapM_hexValue_eq_some_iff {cs : List Char} {digits : List Nat} :
    cs.mapM hexValue = some digits ↔
      (∀ digit ∈ digits, digit < 16) ∧ cs.map Char.toLower = digits.map Nat.digitChar := by
  induction cs generalizing digits with
  | nil => cases digits <;> simp
  | cons c cs ih =>
    cases digits with
    | nil => simp [List.mapM_cons, Option.bind_eq_some_iff]
    | cons digit digits =>
      have first : hexValue c = some digit ↔ digit < 16 ∧ c.toLower = Nat.digitChar digit :=
        hexValue_eq_some_iff
      rw [List.mapM_cons]
      simp only [Option.bind_eq_bind, Option.bind_eq_some_iff, Option.pure_def, Option.some.injEq,
        List.cons.injEq, List.mem_cons, forall_eq_or_imp, List.map_cons]
      constructor
      · rintro ⟨_, here, _, later, rfl, rfl⟩
        obtain ⟨small, lower⟩ := first.mp here
        obtain ⟨smalls, lowers⟩ := ih.mp later
        exact ⟨⟨small, smalls⟩, lower, lowers⟩
      · rintro ⟨⟨small, smalls⟩, lower, lowers⟩
        exact ⟨digit, first.mpr ⟨small, lower⟩, digits, ih.mpr ⟨smalls, lowers⟩, rfl, rfl⟩

/-! ### Numbers of a fixed width -/

theorem hexDigits_concat {width digit : Nat} (wide : 0 < width) (small : digit < 16) (n : Nat) :
    hexDigits (width + 1) (n * 16 + digit) = hexDigits width n ++ [Nat.digitChar digit] := by
  obtain ⟨width, rfl⟩ : ∃ w, width = w + 1 := ⟨width - 1, by omega⟩
  have single := Nat.toDigits_of_lt_base small
  unfold hexDigits
  rcases Nat.eq_zero_or_pos n with rfl | positive
  · have zero : Nat.toDigits 16 0 = ['0'] := rfl
    simp [single, zero, List.replicate_succ']
  · have split : Nat.toDigits 16 (n * 16 + digit) = Nat.toDigits 16 n ++ [Nat.digitChar digit] := by
      rw [Nat.mul_comm, ← Nat.toDigits_append_toDigits (by decide) positive small, single]
    simp [split]

theorem hexDigits_foldl {digits : List Nat} (small : ∀ digit ∈ digits, digit < 16) {width : Nat}
    (wide : 0 < width) (n : Nat) :
    hexDigits (width + digits.length) (digits.foldl (fun value digit => value * 16 + digit) n) =
      hexDigits width n ++ digits.map Nat.digitChar := by
  induction digits generalizing width n with
  | nil => simp
  | cons digit digits ih =>
    obtain ⟨first, others⟩ := List.forall_mem_cons.mp small
    have longer : width + (digit :: digits).length = width + 1 + digits.length := by
      rw [List.length_cons]; omega
    rw [longer, List.foldl_cons, ih others (Nat.succ_pos width), hexDigits_concat wide first]
    simp

theorem hexDigits_ofDigits {digits : List Nat} (small : ∀ digit ∈ digits, digit < 16) {width : Nat}
    (counted : digits.length = width + 1) :
    hexDigits (width + 1) (digits.foldl (fun value digit => value * 16 + digit) 0) =
      digits.map Nat.digitChar := by
  cases digits with
  | nil => cases counted
  | cons digit digits =>
    obtain ⟨first, others⟩ := List.forall_mem_cons.mp small
    have rest : width + 1 = 1 + digits.length := by rw [List.length_cons] at counted; omega
    have single : hexDigits 1 digit = [Nat.digitChar digit] := by
      simp [hexDigits, Nat.toDigits_of_lt_base first]
    rw [rest, List.foldl_cons, hexDigits_foldl others Nat.one_pos, Nat.zero_mul, Nat.zero_add, single]
    rfl

theorem foldl_digits_lt {digits : List Nat} (small : ∀ digit ∈ digits, digit < 16) (n : Nat) :
    digits.foldl (fun value digit => value * 16 + digit) n < (n + 1) * 16 ^ digits.length := by
  induction digits generalizing n with
  | nil => simp
  | cons digit digits ih =>
    obtain ⟨first, others⟩ := List.forall_mem_cons.mp small
    have later := ih others (n * 16 + digit)
    have step : n * 16 + digit + 1 ≤ (n + 1) * 16 := by omega
    calc digits.foldl (fun value digit => value * 16 + digit) (n * 16 + digit)
        < (n * 16 + digit + 1) * 16 ^ digits.length := later
      _ ≤ (n + 1) * 16 * 16 ^ digits.length := Nat.mul_le_mul_right _ step
      _ = (n + 1) * 16 ^ (digits.length + 1) := by rw [Nat.pow_succ, Nat.mul_assoc, Nat.mul_comm 16]

theorem exists_digits {width n : Nat} (fits : n < 16 ^ width) :
    ∃ digits : List Nat, digits.length = width ∧ (∀ digit ∈ digits, digit < 16) ∧
      digits.foldl (fun value digit => value * 16 + digit) 0 = n := by
  induction width generalizing n with
  | zero =>
    have zero : n = 0 := by simpa using fits
    exact ⟨[], rfl, nofun, zero.symm⟩
  | succ width ih =>
    have front : n / 16 < 16 ^ width := Nat.div_lt_of_lt_mul (by rwa [Nat.pow_succ, Nat.mul_comm] at fits)
    obtain ⟨digits, counted, small, value⟩ := ih front
    refine ⟨digits ++ [n % 16], by simp [counted], ?_, ?_⟩
    · intro digit present
      rcases List.mem_append.mp present with present | last
      · exact small digit present
      · obtain rfl := List.mem_singleton.mp last
        exact Nat.mod_lt n (by decide)
    · rw [List.foldl_append, value]
      simp only [List.foldl_cons, List.foldl_nil]
      omega

end Text

namespace Uuid

/-! ### Groups -/

/-- The characters of an identifier that are neither digits nor letters. -/
def marks : List Char := ['-', '\x7b', '\x7d']

theorem toLower_ascii_eq_mark : ∀ n < 128,
    marks.all fun mark => decide ((Char.ofNat n).toLower = mark → Char.ofNat n = mark) := by
  decide +kernel

theorem toLower_mark : marks.all fun mark => decide (mark.toNat < 128 ∧ mark.toLower = mark) := by
  decide

theorem toLower_eq_mark {c mark : Char} (neutral : mark ∈ marks) : c.toLower = mark ↔ c = mark := by
  obtain ⟨ascii, fixed⟩ := of_decide_eq_true (List.all_eq_true.mp toLower_mark mark neutral)
  constructor
  · intro lower
    have below : c.toNat < 128 := Text.ascii_of_toLower (by rw [lower]; exact ascii)
    have same : Char.ofNat c.toNat = c := Char.ofNat_toNat c
    rw [← same] at lower ⊢
    exact of_decide_eq_true (List.all_eq_true.mp (toLower_ascii_eq_mark c.toNat below) mark neutral) lower
  · rintro rfl
    exact fixed

theorem ungrouped_eq_some_iff {sizes : List Nat} {cs flat : List Char} :
    ungrouped sizes cs = some flat ↔ flat.length = sizes.sum ∧ hyphenated sizes flat = cs := by
  induction sizes generalizing cs flat with
  | nil =>
    cases cs <;> cases flat <;> simp [ungrouped, hyphenated]
  | cons size sizes ih =>
    cases sizes with
    | nil =>
      simp only [ungrouped, hyphenated, Option.ite_none_right_eq_some, Option.some.injEq, List.sum_cons,
        List.sum_nil, Nat.add_zero]
      constructor
      · rintro ⟨counted, rfl⟩
        exact ⟨counted, rfl⟩
      · rintro ⟨counted, rfl⟩
        exact ⟨counted, rfl⟩
    | cons next sizes =>
      simp only [ungrouped, hyphenated, List.sum_cons] at ih ⊢
      constructor
      · intro read
        split at read
        · rename_i rest dropped
          obtain ⟨inner, there, rfl⟩ := Option.map_eq_some_iff.mp read
          obtain ⟨counted, joined⟩ := ih.mp there
          have long : size < cs.length := by
            have left := congrArg List.length dropped
            rw [List.length_drop, List.length_cons] at left
            omega
          have taken : (cs.take size).length = size := List.length_take_of_le (Nat.le_of_lt long)
          refine ⟨by rw [List.length_append, taken, counted], ?_⟩
          rw [List.take_left' taken, List.drop_left' taken, joined, ← dropped, List.take_append_drop]
        · cases read
      · rintro ⟨counted, rfl⟩
        have taken : (flat.take size).length = size := List.length_take_of_le (by omega)
        have left : (flat.drop size).length = next + sizes.sum := by rw [List.length_drop]; omega
        have inner := ih.mpr ⟨left, rfl⟩
        rw [List.drop_left' taken, List.take_left' taken]
        simp only [inner, Option.map_some, List.take_append_drop]

theorem map_toLower_hyphenated (sizes : List Nat) (flat : List Char) :
    (hyphenated sizes flat).map Char.toLower = hyphenated sizes (flat.map Char.toLower) := by
  fun_induction hyphenated sizes flat with
  | case1 => rfl
  | case2 => rfl
  | case3 size sizes flat more ih =>
    have hyphen : Char.toLower '-' = '-' := rfl
    rw [hyphenated, List.map_append, List.map_cons, ih, List.map_take, List.map_drop, hyphen]
    exact more

theorem exists_hyphenated {sizes : List Nat} {cs lower : List Char} (counted : lower.length = sizes.sum)
    (same : cs.map Char.toLower = hyphenated sizes lower) :
    ∃ flat, flat.map Char.toLower = lower ∧ hyphenated sizes flat = cs := by
  fun_induction hyphenated sizes lower generalizing cs with
  | case1 | case2 => exact ⟨cs, same, rfl⟩
  | case3 size sizes lower more ih =>
    rw [List.sum_cons] at counted
    obtain ⟨front, behind, rfl, taken, behindSame⟩ := List.map_eq_append_iff.mp same
    obtain ⟨c, back, rfl, hyphen, backSame⟩ := List.map_eq_cons_iff.mp behindSame
    obtain rfl := (toLower_eq_mark (by simp [marks])).mp hyphen
    obtain ⟨flat, flatSame, rfl⟩ := ih (by rw [List.length_drop]; omega) backSame
    have long : front.length = size := by
      have length := congrArg List.length taken
      rw [List.length_map, List.length_take] at length
      omega
    refine ⟨front ++ flat, by rw [List.map_append, taken, flatSame, List.take_append_drop], ?_⟩
    rw [hyphenated, List.take_left' long, List.drop_left' long]
    exact more

/-! ### Readers -/

theorem exists_digits_word (id : Uuid) :
    ∃ digits : List Nat, digits.length = 32 ∧ (∀ digit ∈ digits, digit < 16) ∧
      digits.foldl (fun value digit => value * 16 + digit) 0 = id.word.toNat :=
  Text.exists_digits (Nat.lt_of_lt_of_eq id.word.isLt (Nat.pow_mul 2 4 32))

theorem length_hexDigits_word (id : Uuid) : (Text.hexDigits 32 id.word.toNat).length = 32 := by
  obtain ⟨digits, counted, small, value⟩ := exists_digits_word id
  rw [← value, Text.hexDigits_ofDigits small counted, List.length_map, counted]

theorem ofDigits_eq_some_iff {cs : List Char} {id : Uuid} :
    ofDigits cs = some id ↔ cs.map Char.toLower = Text.hexDigits 32 id.word.toNat := by
  constructor
  · intro read
    unfold ofDigits at read
    split at read
    · rename_i long
      obtain ⟨digits, digitsRead, rfl⟩ := Option.map_eq_some_iff.mp read
      obtain ⟨small, lower⟩ := Text.mapM_hexValue_eq_some_iff.mp digitsRead
      have counted : digits.length = 32 := by
        have length := congrArg List.length lower
        rwa [List.length_map, List.length_map, long, eq_comm] at length
      have fits := Text.foldl_digits_lt small 0
      rw [counted, Nat.zero_add, Nat.one_mul, ← Nat.pow_mul 2 4 32] at fits
      rw [lower, BitVec.toNat_ofNat, Nat.mod_eq_of_lt fits, Text.hexDigits_ofDigits small counted]
    · cases read
  · intro lower
    obtain ⟨digits, counted, small, value⟩ := exists_digits_word id
    rw [← value, Text.hexDigits_ofDigits small counted] at lower
    have long : cs.length = 32 := by
      have length := congrArg List.length lower
      rwa [List.length_map, List.length_map, counted] at length
    have read := Text.mapM_hexValue_eq_some_iff.mpr ⟨small, lower⟩
    rw [ofDigits, if_pos long, read, Option.map_some, value, BitVec.ofNat_toNat, BitVec.setWidth_eq]

theorem ofGroups_eq_some_iff {cs : List Char} {id : Uuid} :
    ofGroups cs = some id ↔ cs.map Char.toLower = id.chars := by
  unfold ofGroups chars
  constructor
  · intro read
    obtain ⟨flat, grouped, digits⟩ := Option.bind_eq_some_iff.mp read
    obtain ⟨-, rfl⟩ := ungrouped_eq_some_iff.mp grouped
    rw [map_toLower_hyphenated, ofDigits_eq_some_iff.mp digits]
  · intro lower
    have counted : (Text.hexDigits 32 id.word.toNat).length = groups.sum := length_hexDigits_word id
    obtain ⟨flat, flatLower, joined⟩ := exists_hyphenated counted lower
    have long : flat.length = groups.sum := by rw [← counted, ← flatLower, List.length_map]
    rw [ungrouped_eq_some_iff.mpr ⟨long, joined⟩]
    exact ofDigits_eq_some_iff.mpr flatLower

theorem unbraced_eq_some_iff {cs inner : List Char} :
    unbraced cs = some inner ↔ cs = '\x7b' :: (inner ++ ['\x7d']) := by
  constructor
  · intro read
    unfold unbraced at read
    split at read
    · split at read
      · rename_i rest closed
        obtain ⟨init, rfl⟩ := List.getLast?_eq_some_iff.mp closed
        rw [← Option.some.inj read, List.dropLast_concat]
      · cases read
    · cases read
  · rintro rfl
    simp [unbraced]

/-! ### Forms -/

/-- The texts of an identifier that letters in upper case may vary. -/
def forms (id : Uuid) : List (List Char) :=
  [Text.hexDigits 32 id.word.toNat, id.chars, '\x7b' :: (id.chars ++ ['\x7d']), urnPrefix ++ id.chars]

theorem length_chars (id : Uuid) : id.chars.length = 36 := by
  have long := length_hexDigits_word id
  simp [chars, groups, hyphenated, long]

theorem map_toLower_braced {cs inner : List Char} :
    cs.map Char.toLower = '\x7b' :: (inner ++ ['\x7d']) ↔
      ∃ within, unbraced cs = some within ∧ within.map Char.toLower = inner := by
  simp only [unbraced_eq_some_iff, List.map_eq_cons_iff, List.map_eq_append_iff, List.map_eq_nil_iff]
  constructor
  · rintro ⟨_, _, rfl, opened, within, _, rfl, lower, last, _, rfl, closed, rfl⟩
    obtain rfl := (toLower_eq_mark (by simp [marks])).mp opened
    obtain rfl := (toLower_eq_mark (by simp [marks])).mp closed
    exact ⟨within, rfl, lower⟩
  · rintro ⟨within, rfl, lower⟩
    exact ⟨_, _, rfl, rfl, within, _, rfl, lower, _, _, rfl, rfl, rfl⟩

theorem map_toLower_urn {cs inner : List Char} :
    cs.map Char.toLower = urnPrefix ++ inner ↔
      (cs.take 9).map Char.toLower = urnPrefix ∧ (cs.drop 9).map Char.toLower = inner := by
  constructor
  · intro lower
    rw [List.map_take, List.map_drop, lower]
    exact ⟨rfl, rfl⟩
  · rintro ⟨front, back⟩
    rw [← front, ← back, ← List.map_append, List.take_append_drop]

theorem parseChars_eq_some_iff {cs : List Char} {id : Uuid} :
    parseChars cs = some id ↔ cs.map Char.toLower ∈ id.forms := by
  have length : (cs.map Char.toLower).length = cs.length := List.length_map _
  simp only [forms, List.mem_cons, List.not_mem_nil, or_false]
  constructor
  · intro read
    unfold parseChars at read
    split at read
    · exact .inl (ofDigits_eq_some_iff.mp read)
    · exact .inr (.inl (ofGroups_eq_some_iff.mp read))
    · obtain ⟨within, braced, grouped⟩ := Option.bind_eq_some_iff.mp read
      exact .inr (.inr (.inl (map_toLower_braced.mpr ⟨within, braced, ofGroups_eq_some_iff.mp grouped⟩)))
    · split at read
      · rename_i urn
        exact .inr (.inr (.inr (map_toLower_urn.mpr ⟨urn, ofGroups_eq_some_iff.mp read⟩)))
      · cases read
    · cases read
  · have hyphens := length_chars id
    rintro (lower | lower | lower | lower)
    · have long : cs.length = 32 := by rw [← length, lower, length_hexDigits_word]
      simp only [parseChars, long, ofDigits_eq_some_iff, lower]
    · have long : cs.length = 36 := by rw [← length, lower, hyphens]
      simp only [parseChars, long, ofGroups_eq_some_iff, lower]
    · have long : cs.length = 38 := by rw [← length, lower]; simp [hyphens]
      obtain ⟨within, braced, grouped⟩ := map_toLower_braced.mp lower
      simp only [parseChars, long, braced, Option.bind_some, ofGroups_eq_some_iff, grouped]
    · have long : cs.length = 45 := by rw [← length, lower]; simp [hyphens, urnPrefix]
      obtain ⟨urn, grouped⟩ := map_toLower_urn.mp lower
      simp only [parseChars, long, if_pos urn, ofGroups_eq_some_iff, grouped]

theorem parse_eq_some_iff {s : String} {id : Uuid} :
    parse s = some id ↔ s.toList.map Char.toLower ∈ id.forms :=
  parseChars_eq_some_iff

end Uuid
end Relay
