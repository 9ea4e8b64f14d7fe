import Relay.Text.CaseFold

/-!
# Signs and case

Folding moves letters to letters. So a sign, a character of ASCII other than a letter, is equal up to case to
itself only: `fold_eq_fold_sign`.
-/

namespace Relay.Text

/-- A character of ASCII that is not a letter. -/
structure IsSign (c : Char) : Prop where
  ascii : c.toNat < 128
  notCapital : c.toNat < 65 ∨ 90 < c.toNat
  notSmall : c.toNat < 97 ∨ 122 < c.toNat

theorem fold_eq (c : Char) :
    fold c = c ∨ ∃ run ∈ foldRuns, run.first ≤ c.toNat ∧ c.toNat ≤ run.last ∧
      fold c = Char.ofNat (c.toNat + run.shift).toNat := by
  unfold fold moveBy
  split
  · rename_i run found
    have covers : run.covers c.toNat = true := List.find?_some (p := fun run : Run => run.covers c.toNat) found
    simp only [Run.covers, Bool.and_eq_true, decide_eq_true_eq] at covers
    exact .inr ⟨run, List.mem_of_find?_eq_some found, covers.1.1, covers.1.2, rfl⟩
  · exact .inl rfl

/-! ### What the runs move -/

theorem foldRuns_from_letters : ∀ run ∈ foldRuns, 128 ≤ run.first ∨ 65 ≤ run.first ∧ run.last ≤ 90 := by
  decide +kernel

theorem foldRuns_to_letters :
    ∀ run ∈ foldRuns, 128 ≤ run.first + run.shift ∨ 97 ≤ run.first + run.shift ∧ run.last + run.shift ≤ 122 := by
  decide +kernel

theorem foldRuns_to_characters :
    ∀ run ∈ foldRuns, run.last + run.shift < 0xD800 ∨
      0xDFFF < run.first + run.shift ∧ run.last + run.shift < 0x110000 := by
  decide +kernel

theorem fold_sign {c : Char} (sign : IsSign c) : fold c = c := by
  obtain ⟨ascii, notCapital, -⟩ := sign
  rcases fold_eq c with same | ⟨run, present, low, high, -⟩
  · exact same
  · have letters := foldRuns_from_letters run present
    omega

theorem fold_eq_fold_sign {c : Char} (sign : IsSign c) (d : Char) : fold c = fold d ↔ d = c := by
  rw [fold_sign sign]
  constructor
  · intro same
    rcases fold_eq d with kept | ⟨run, present, low, high, moved⟩
    · exact kept.symm.trans same.symm
    · obtain ⟨ascii, -, notSmall⟩ := sign
      have letters := foldRuns_to_letters run present
      have characters := foldRuns_to_characters run present
      have valid : (d.toNat + run.shift).toNat.isValidChar := by
        unfold Nat.isValidChar
        omega
      have number : c.toNat = (d.toNat + run.shift).toNat := by
        rw [same, moved, Char.ofNat, dif_pos valid]
        rfl
      omega
  · rintro rfl
    exact (fold_sign sign).symm

end Relay.Text
