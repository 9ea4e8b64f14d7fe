import Mathlib.Data.List.DropRight
import Relay.Text.Mask

/-!
# What a mask tells

A masked value has the length of the value and shows where it does, so that masking it again changes nothing:
`mask_mask`. Beyond its length it tells the last characters, one in four and never more than four of them, and
nothing about the others: `masks_tell_last_characters_only`.
-/

namespace Relay.Text

theorem maskChars_of_blank {cs : List Char} (blank : cs.all isBlank = true) : maskChars cs = cs := if_pos blank

theorem maskChars_of_not_blank {cs : List Char} (shown : cs.all isBlank = false) :
    maskChars cs = List.replicate (cs.length - visibleTail cs.length) '*' ++
      cs.drop (cs.length - visibleTail cs.length) := by
  rw [maskChars, shown]
  rfl

theorem hidden_pos {n : Nat} (some' : 0 < n) : 0 < n - visibleTail n := by
  unfold visibleTail
  split <;> omega

/-- A star stands in front, so that the value does not become blank. -/
theorem not_blank_maskChars {cs : List Char} (shown : cs.all isBlank = false) :
    (maskChars cs).all isBlank = false := by
  have some' : 0 < cs.length := by
    cases cs with
    | nil => cases shown
    | cons c rest => exact Nat.succ_pos _
  obtain ⟨hidden, same⟩ := Nat.exists_eq_succ_of_ne_zero (Nat.ne_of_gt (hidden_pos some'))
  rw [maskChars_of_not_blank shown, same, List.replicate_succ]
  rfl

theorem maskChars_maskChars (cs : List Char) : maskChars (maskChars cs) = maskChars cs := by
  cases shown : cs.all isBlank with
  | true => rw [maskChars_of_blank shown, maskChars_of_blank shown]
  | false =>
    rw [maskChars_of_not_blank (not_blank_maskChars shown), length_maskChars, maskChars_of_not_blank shown]
    rw [List.drop_left' (List.length_replicate ..)]

theorem length_mask (s : String) : (mask s).length = s.length := by
  rw [← String.length_toList, mask, String.toList_ofList, length_maskChars, String.length_toList]

theorem mask_of_blank {s : String} (blank : isBlankText s = true) : mask s = s := by
  rw [mask, maskChars_of_blank blank, String.ofList_toList]

theorem mask_mask (s : String) : mask (mask s) = mask s := by
  rw [mask, mask, String.toList_ofList, maskChars_maskChars]

/-! ### Equal masks -/

theorem visibleTail_of_short {n : Nat} (short : n ≤ 4) : visibleTail n = 0 := if_pos short

theorem visibleTail_of_long {n : Nat} (long : ¬ n ≤ 4) : visibleTail n = min 4 (n / 4) := if_neg long

theorem maskChars_eq_maskChars_iff {cs ds : List Char} (shown : cs.all isBlank = false)
    (shown' : ds.all isBlank = false) :
    maskChars cs = maskChars ds ↔
      cs.length = ds.length ∧ cs.rtake (visibleTail cs.length) = ds.rtake (visibleTail cs.length) := by
  constructor
  · intro same
    have lengths : cs.length = ds.length := by rw [← length_maskChars, same, length_maskChars]
    rw [maskChars_of_not_blank shown, maskChars_of_not_blank shown', lengths] at same
    rw [List.rtake, List.rtake, lengths]
    exact ⟨rfl, List.append_cancel_left same⟩
  · rintro ⟨lengths, ends⟩
    rw [List.rtake, List.rtake, lengths] at ends
    rw [maskChars_of_not_blank shown, maskChars_of_not_blank shown', lengths, ends]

/-- The last characters of a text, one in four of them and at most four. -/
def lastChars (s : String) : List Char := s.toList.rtake (min 4 (s.length / 4))

theorem toList_mask_of_not_blank {s : String} (shown : isBlankText s = false) :
    (mask s).toList =
      if s.length ≤ 4 then List.replicate s.length '*'
      else List.replicate (s.length - min 4 (s.length / 4)) '*' ++ lastChars s := by
  rw [mask, String.toList_ofList, maskChars_of_not_blank shown, String.length_toList]
  split
  · rename_i short
    rw [visibleTail_of_short short, Nat.sub_zero, List.drop_of_length_le (Nat.le_of_eq String.length_toList),
      List.append_nil]
  · rename_i long
    rw [visibleTail_of_long long, lastChars, List.rtake, String.length_toList]

theorem mask_eq_mask_iff {s t : String} (shown : isBlankText s = false) (shown' : isBlankText t = false) :
    mask s = mask t ↔ s.length = t.length ∧ (s.length ≤ 4 ∨ lastChars s = lastChars t) := by
  rw [mask, mask, String.ofList_inj, maskChars_eq_maskChars_iff shown shown', String.length_toList,
    String.length_toList]
  refine and_congr_right fun lengths => ?_
  by_cases short : s.length ≤ 4
  · simp only [short, visibleTail_of_short, List.rtake_zero, true_or]
  · rw [visibleTail_of_long short, lastChars, lastChars, ← lengths]
    exact (or_iff_right short).symm

/-- A mask has as many characters as the value, stars but for the last of them in a value of more than four. Two
values of one length have one mask just when no character is shown or the same ones are. Blank values stay as they
are, and no mask changes when it is masked again. -/
theorem masks_tell_last_characters_only (s : String) :
    (mask s).length = s.length ∧ mask (mask s) = mask s ∧ (isBlankText s = true → mask s = s) ∧
      (isBlankText s = false →
        (mask s).toList =
          (if s.length ≤ 4 then List.replicate s.length '*'
            else List.replicate (s.length - min 4 (s.length / 4)) '*' ++ lastChars s) ∧
        ∀ t, isBlankText t = false →
          (mask s = mask t ↔ s.length = t.length ∧ (s.length ≤ 4 ∨ lastChars s = lastChars t))) := by
  refine ⟨length_mask s, mask_mask s, mask_of_blank, fun shown => ⟨toList_mask_of_not_blank shown, ?_⟩⟩
  exact fun t shown' => mask_eq_mask_iff shown shown'

/-- Accents take more bytes and count as the plain letters do; an ideographic space is blank. -/
theorem accented_value_has_plain_mask :
    mask "crème brûlée 42" = mask "creme brulee 42" ∧ mask "crème brûlée 42" ≠ mask "crème brûlée 43" ∧
      (mask "crème brûlée 42").toList = List.replicate 12 '*' ++ [' ', '4', '2'] ∧
      isBlankText "\u3000 " = true ∧ mask "\u3000 " = "\u3000 " := by
  have accented : isBlankText "crème brûlée 42" = false := by decide
  obtain ⟨-, -, -, told⟩ := masks_tell_last_characters_only "crème brûlée 42"
  obtain ⟨text, equal⟩ := told accented
  obtain ⟨-, -, kept, -⟩ := masks_tell_last_characters_only "\u3000 "
  refine ⟨(equal "creme brulee 42" (by decide)).mpr (by decide), fun same => ?_, text, by decide, kept (by decide)⟩
  exact absurd ((equal "crème brûlée 43" (by decide)).mp same) (by decide)

end Relay.Text
