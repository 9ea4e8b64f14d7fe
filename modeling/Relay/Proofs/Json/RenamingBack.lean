import Mathlib.Data.List.Sort
import Relay.Proofs.Json.Renaming

/-!
# Renamings undone

A document is its outline together with its children (`eq_of_child?`), so what two renamings make of a document is
seen one level at a time: renaming back finds the outermost members of the fresh name, which are those that were
moved, and nothing inside of them.
-/

namespace Relay.Json

namespace Members

variable {α : Type} {members members' : Members α}

theorem mem_iff_get? (ordered : Ordered members) {member : String × α} :
    member ∈ members ↔ get? member.1 members = some member.2 :=
  ⟨get?_of_mem ordered, mem_of_get?⟩

theorem Ordered.ext (ordered : Ordered members) (ordered' : Ordered members')
    (same : ∀ key, get? key members = get? key members') : members = members' := by
  have irrefl : Std.Irrefl fun a b : String × α => a.1 < b.1 := ⟨fun a => String.lt_irrefl a.1⟩
  have antisymm : Std.Antisymm fun a b : String × α => a.1 < b.1 :=
    ⟨fun a b before after => absurd after (String.lt_asymm before)⟩
  refine List.Pairwise.eq_of_mem_iff ordered ordered' fun member => ?_
  rw [mem_iff_get? ordered, mem_iff_get? ordered', same]

end Members

theorem eq_of_child? {v v' : Json} (formed : v.WellFormed) (formed' : v'.WellFormed)
    (root : v.outline = v'.outline) (children : ∀ step, v.child? step = v'.child? step) : v = v' := by
  cases v with
  | arr items =>
    cases v' with
    | arr items' => exact congrArg Json.arr (List.ext_getElem? fun i => children (.index i))
    | _ => cases root
  | obj members =>
    cases v' with
    | obj members' => exact congrArg Json.obj (formed.1.ext formed'.1 fun key => children (.key key))
    | _ => cases root
  | _ => cases v' <;> first | exact root | cases root

theorem wellFormed_renamed (old new : String) {v : Json} (formed : v.WellFormed) :
    (renamed old new v).WellFormed := by
  have below : ∀ step child, v.child? step = some child → (renamed old new child).WellFormed := by
    intro step child found
    have smaller := size_lt_of_child? formed found
    exact wellFormed_renamed old new (formed.child found)
  cases v with
  | arr items =>
    rw [renamed, renamedItems_eq]
    refine (wellFormedItems_iff _).mpr fun v present => ?_
    obtain ⟨item, was, rfl⟩ := List.mem_map.mp present
    obtain ⟨step, found⟩ := exists_child?_of_item was
    exact below step item found
  | obj members =>
    obtain ⟨after, same, ordered, origin⟩ := renamed_obj old new members
    rw [same]
    refine ⟨ordered formed.1, (wellFormedMembers_iff _).mpr fun member present => ?_⟩
    rcases origin member present with ⟨was, before, inside⟩ | moved
    · exact inside ▸ below (.key was.1) was.2 (Members.get?_of_mem formed.1 before)
    · exact (wellFormedMembers_iff _).mp formed.2 (old, member.2) moved
  | _ => exact formed
termination_by v.size

/-! ### Renaming to a fresh name and back -/

theorem renamed_renamed (name : String) {fresh : String} {v : Json} (formed : v.WellFormed)
    (lacks : v.Lacks fresh) : renamed fresh name (renamed name fresh v) = v := by
  by_cases other : name = fresh
  · have unchanged := renamed_of_count_zero name fresh v (renameCount_of_lacks formed (other ▸ lacks))
    rw [unchanged, renamed_of_count_zero fresh name v (renameCount_of_lacks formed lacks)]
  refine eq_of_child? (wellFormed_renamed _ _ (wellFormed_renamed _ _ formed)) formed ?_ fun step => ?_
  · rw [outline_renamed, outline_renamed]
  · rw [child?_renamed (Ne.symm other), child?_renamed other, child?_renamed other]
    -- A moved value goes through neither renaming, so only the other children need the induction.
    by_cases toFresh : step = .key fresh
    · rw [if_pos toFresh, toFresh, lacks.child?_key]
    by_cases toName : step = .key name
    · subst toName
      simp [other, Ne.symm other, lacks.child?_key]
    · rw [if_neg toFresh, if_neg toName, if_neg toName, if_neg toFresh, Option.none_or, Option.none_or, Option.map_map]
      cases found : v.child? step with
      | none => rfl
      | some child =>
        have smaller := size_lt_of_child? formed found
        exact congrArg some (renamed_renamed name (formed.child found) (lacks.child found))
termination_by v.size

/-- Renaming members to a name that occurs nowhere in the document and then back leaves the document as it was,
also where a member of the old name is inside of another. Both renamings succeed on texts, the second one on the text of
the first, provided that the numbers in it are read back. -/
theorem renaming_to_fresh_name_is_undone (name : String) {fresh : String} {document : Json}
    (formed : document.WellFormed) (lacks : document.Lacks fresh) :
    renamed fresh name (renamed name fresh document) = document ∧
      ∀ text, parse text = .ok document →
        ∃ forth back, (Edit.rename name fresh).Succeeds text document forth ∧
          (Edit.rename fresh name).draft forth.document = .ok back ∧ back.document = document ∧
          (forth.document.NumbersReadBack →
            (Edit.rename fresh name).Succeeds (forth.finish text) forth.document back) := by
  have undone := renamed_renamed name formed lacks
  refine ⟨undone, fun text parsed => ?_⟩
  by_cases same : name = fresh
  · subst same
    have kept := draft_rename_self name document
    exact ⟨_, _, succeeds_of_drafted rfl parsed kept, kept, rfl,
      fun _ => succeeds_of_drafted rfl parsed kept⟩
  · have forth := succeeds_of_drafted rfl parsed (draft_rename same document)
    have back := draft_rename (Ne.symm same) (renamed name fresh document)
    exact ⟨_, _, forth, back, undone, fun numbers => succeeds_of_drafted rfl (forth.read numbers) back⟩

/-- An `a` inside of an `a` is not renamed, neither on the way nor on the way back. -/
theorem nested_member_is_back :
    let document : Json := .obj [("a", .obj [("a", .obj [("a", .null), ("c", .bool true)])]),
      ("list", .arr [.obj [("a", .arr [.obj [("a", .str "b")]])]])]
    let between : Json := .obj [("b", .obj [("a", .obj [("a", .null), ("c", .bool true)])]),
      ("list", .arr [.obj [("b", .arr [.obj [("a", .str "b")]])]])]
    renamed "a" "b" document = between ∧ renamed "b" "a" between = document ∧
      ∃ forth back, (Edit.rename "a" "b").Succeeds document.render document forth ∧
        (Edit.rename "b" "a").draft forth.document = .ok back ∧ back.document = document := by
  intro document between
  have sorted : "a" < "list" ∧ "a" < "c" := by decide
  have formed : document.WellFormed := by
    simp only [document, WellFormed, WellFormedMembers, WellFormedItems, Members.Ordered, List.pairwise_pair,
      List.pairwise_singleton, sorted, and_self]
  have numbers : document.NumbersValid := by
    simp [document, NumbersValid, NumbersValidMembers, NumbersValidItems]
  have legible : document.Legible maxDepth := ⟨formed, numbers, by decide⟩
  have lacks : document.Lacks "b" := lacks_of_renameCount rfl
  have forth : renamed "a" "b" document = between := rfl
  obtain ⟨undone, texts⟩ := renaming_to_fresh_name_is_undone "a" formed lacks
  obtain ⟨first, back, succeeds, drafted, same, -⟩ := texts document.render (legible.parse_render_self rfl)
  exact ⟨forth, forth ▸ undone, first, back, succeeds, drafted, same⟩

end Relay.Json
