import Relay.Proofs.Json.Masking
import Relay.Proofs.Json.Merging
import Relay.Proofs.Json.Removing
import Relay.Proofs.Json.Renaming

/-!
# Edits that write the text anew

An edit writes the text anew when some node of the document has become another one, and keeps it otherwise.
Masking, removing and renaming compare: they write anew just when the document is not what it was. Replacing and
merging do not, and a node counts as another one when the value put there is its own: `changed_draft_iff`.
-/

namespace Relay.Json

/-! ### Marks of changes -/

section Marks

variable {f : Json → Option Json} {draft : Draft} {locations : List Location}

theorem none_of_unchanged (same : (draft.changeAll f locations).changed = false) :
    ∀ location ∈ locations, (draft.document.get? location).bind f = none := by
  induction locations generalizing draft with
  | nil => exact List.forall_mem_nil _
  | cons location rest ih =>
    have later : (draft.change f location).changeAll f rest = draft.change f location :=
      unchanged_changeAll f rest _ same
    have first : (draft.change f location).changed = false := by
      rw [← later]
      exact same
    have kept : draft.change f location = draft := unchanged_change f draft location first
    have here : (draft.document.get? location).bind f = none := by
      unfold Draft.change at first
      split at first
      · cases first
      · assumption
    refine List.forall_mem_cons.mpr ⟨here, ih ?_⟩
    rw [← kept]
    exact same

/-- One answer about a node of the document as it was is enough, whatever the other answers are. -/
theorem changed_changeAll_iff (fresh : draft.changed = false) :
    (draft.changeAll f locations).changed = true ↔
      ∃ location ∈ locations, ∃ node w, draft.document.get? location = some node ∧ f node = some w := by
  constructor
  · intro changed
    by_contra unanswered
    have none : ∀ location ∈ locations, (draft.document.get? location).bind f = .none := by
      intro location listed
      refine Option.bind_eq_none_iff.mpr fun node found => ?_
      refine Option.eq_none_iff_forall_ne_some.mpr fun w answer => ?_
      exact unanswered ⟨location, listed, node, w, found, answer⟩
    rw [changeAll_of_none none, fresh] at changed
    cases changed
  · rintro ⟨location, listed, node, w, found, answer⟩
    refine Bool.eq_true_of_not_eq_false fun same => ?_
    have none := none_of_unchanged same location listed
    rw [found, Option.bind_some, answer] at none
    cases none

end Marks

/-! ### Edits that compare -/

theorem child_of_renamed_same {old new : String} (other : old ≠ new) {v child : Json}
    (same : renamed old new v = v) {step : Step} (found : v.child? step = some child) :
    step ≠ .key old ∧ renamed old new child = child := by
  have absent : v.child? (.key old) = none := by
    have moved := child?_renamed other v (.key old)
    rwa [same, if_pos rfl] at moved
  have stays : step ≠ .key old := by
    rintro rfl
    rw [absent] at found
    cases found
  have there := child?_renamed other v step
  rw [same, if_neg stays, absent, ite_self, Option.none_or, found, Option.map_some] at there
  exact ⟨stays, (Option.some.inj there).symm⟩

theorem lacks_of_renamed_same {old new : String} (other : old ≠ new) {v : Json} (same : renamed old new v = v) :
    v.Lacks old := by
  intro front
  refine Option.not_isSome_iff_eq_none.mp fun present => ?_
  induction front generalizing v with
  | nil =>
    obtain ⟨child, found, -⟩ := exists_child?_of_isSome present
    exact (child_of_renamed_same other same found).1 rfl
  | cons step front ih =>
    obtain ⟨child, found, below⟩ := exists_child?_of_isSome present
    exact ih (child_of_renamed_same other same found).2 below

theorem draft_rename_iff {old new : String} {document : Json} {draft : Draft} :
    (Edit.rename old new).draft document = .ok draft ↔
      old = new ∧ draft = .start document ∨
        old ≠ new ∧ draft = ⟨renamed old new document, renameCount old document != 0⟩ := by
  rw [Edit.draft]
  by_cases same : old = new <;> simp [same, eq_comm]

theorem unchanged_rename {old new : String} {document : Json} (formed : document.WellFormed) {draft : Draft}
    (drafted : (Edit.rename old new).draft document = .ok draft) (same : draft.document = document) :
    draft.changed = false := by
  rcases draft_rename_iff.mp drafted with ⟨-, rfl⟩ | ⟨other, rfl⟩
  · rfl
  · have none := renameCount_of_lacks formed (lacks_of_renamed_same other same)
    show (renameCount old document != 0) = false
    rw [none]
    rfl

/-- What a path names is there, so that a member that it names is missing when it has been removed. -/
theorem unchanged_remove {source : String} {document : Json} {depth : Nat} (legible : document.Legible depth)
    {draft : Draft} (drafted : (Edit.remove source).draft document = .ok draft)
    (same : draft.document = document) : draft.changed = false := by
  obtain ⟨locations, found, drafted⟩ := bind_ok drafted
  obtain ⟨path, -, rfl, -⟩ := located_eq_ok_iff.mp found
  cases drafted
  rw [document_removeMembers legible] at same
  have elements : ∀ here ∈ path.locate document, here.isMember = false := by
    intro here named
    refine Bool.eq_false_of_not_eq_true fun member => ?_
    obtain ⟨node, there⟩ := ((mem_locate legible.formed).mp named).exists_get?
    have gone : listedMember (path.locate document) here = true := listedMember_eq_true.mpr ⟨named, member⟩
    have absent := (removed_pruned (onlyMembers_listedMember _) rfl document).absent here here gone
      (List.prefix_refl here)
    rw [same, there] at absent
    cases absent
  rw [removeMembers_of_elements document elements]
  rfl

theorem unchanged_mask {sources : List String} {document : Json} {depth : Nat} (legible : document.Legible depth)
    {draft : Draft} (drafted : (Edit.mask sources).draft document = .ok draft)
    (same : draft.document = document) : draft.changed = false := by
  rcases readable_or_malformed sources with readable | ⟨front, source, back, fault, rfl, readable, malformed⟩
  · obtain ⟨paths, -, masked⟩ := exists_spelled readable
    cases drafted.symm.trans (masked (.start document))
    refine Bool.eq_false_of_not_eq_true fun changed => ?_
    exact (changed_foldl_maskPath_iff legible paths).mp changed same
  · cases drafted.symm.trans (maskPaths_of_malformed readable malformed (.start document))

/-! ### Edits that do not compare -/

/-- The edit puts a value somewhere, be it the value that is there: a replacement is meant for a node, or there is
an object to merge something into. -/
def Edit.Rewrites (document : Json) : Edit → Prop
  | .replace source expected _ =>
    ∃ path here, Path.parse source = .ok path ∧ Meant path expected document here
  | .inject source metadata _ =>
    metadata ≠ [] ∧ ∃ path here members, Path.parse source = .ok path ∧ here ∈ path.locate document ∧
      document.get? here = some (.obj members)
  | .mask _ | .remove _ | .rename .. => False

theorem changed_replaceMembers_iff {path : Path} {expected : Option String} {value : String} {document : Json}
    (formed : document.WellFormed) :
    (replaceMembers expected value (path.locate document) document).changed = true ↔
      ∃ here, Meant path expected document here := by
  rw [replaceMembers, changed_changeAll_iff rfl]
  constructor
  · rintro ⟨here, listed, node, w, found, answer⟩
    have hit : replacements path expected value document here = some w :=
      answers_eq_some_iff.mpr ⟨listed, node, found, answer⟩
    exact ⟨here, ((replacements_eq_some_iff formed).mp hit).1⟩
  · rintro ⟨here, meant⟩
    have hit : replacements path expected value document here = some (.str value) :=
      (replacements_eq_some_iff formed).mpr ⟨meant, rfl⟩
    obtain ⟨listed, node, found, answer⟩ := answers_eq_some_iff.mp hit
    exact ⟨here, listed, node, _, found, answer⟩

theorem exists_merged_iff {metadata : Members Json} {node : Json} :
    (∃ w, merged metadata node = some w) ↔ metadata ≠ [] ∧ ∃ members, node = .obj members := by
  constructor
  · rintro ⟨w, answer⟩
    refine ⟨?_, ?_⟩
    · rintro rfl
      rw [merged_nil] at answer
      cases answer
    · by_contra other
      rw [merged_of_not_obj fun members same => other ⟨members, same⟩] at answer
      cases answer
  · rintro ⟨some, members, rfl⟩
    rw [merged, if_neg (by simpa using some)]
    exact ⟨_, rfl⟩

theorem changed_mergeAt_iff {metadata : Members Json} {locations : List Location} {document : Json} :
    (mergeAt metadata locations document).changed = true ↔
      metadata ≠ [] ∧ ∃ here ∈ locations, ∃ members, document.get? here = some (.obj members) := by
  rw [mergeAt, changed_changeAll_iff rfl]
  constructor
  · rintro ⟨here, listed, node, w, found, answer⟩
    obtain ⟨some, members, rfl⟩ := exists_merged_iff.mp ⟨w, answer⟩
    exact ⟨some, here, listed, members, found⟩
  · rintro ⟨some, here, listed, members, found⟩
    obtain ⟨w, answer⟩ := exists_merged_iff.mpr ⟨some, members, rfl⟩
    exact ⟨here, listed, _, w, found, answer⟩

/-! ### Texts written anew -/

/-- A draft counts as changed when its document is another one, and when the edit put a value in the place of its
like. -/
theorem changed_draft_iff {edit : Edit} {document : Json} {depth : Nat} (legible : document.Legible depth)
    {draft : Draft} (drafted : edit.draft document = .ok draft) :
    draft.changed = true ↔ draft.document ≠ document ∨ edit.Rewrites document := by
  have differs : draft.document ≠ document → draft.changed = true := fun other =>
    Bool.eq_true_of_not_eq_false fun same => other (unchanged_draft drafted same)
  have compares : (draft.document = document → draft.changed = false) →
      draft.changed = true → draft.document ≠ document := by
    intro unchanged changed same
    rw [unchanged same] at changed
    cases changed
  cases edit with
  | replace source expected value =>
    obtain ⟨locations, found, copy⟩ := bind_ok drafted
    obtain ⟨path, read, rfl, -⟩ := located_eq_ok_iff.mp found
    cases copy
    rw [changed_replaceMembers_iff legible.formed] at differs ⊢
    constructor
    · rintro ⟨here, meant⟩
      exact .inr ⟨path, here, read, meant⟩
    · rintro (other | ⟨path', here, read', meant⟩)
      · exact differs other
      · cases read.symm.trans read'
        exact ⟨here, meant⟩
  | inject source metadata now =>
    obtain ⟨locations, found, copy⟩ := bind_ok drafted
    obtain ⟨path, read, rfl, -⟩ := located_eq_ok_iff.mp found
    cases copy
    have some : stamped now metadata ≠ [] ↔ metadata ≠ [] := not_congr List.map_eq_nil_iff
    rw [changed_mergeAt_iff, some] at differs ⊢
    constructor
    · rintro ⟨some, here, named, members, found⟩
      exact .inr ⟨some, path, here, members, read, named, found⟩
    · rintro (other | ⟨some, path', here, members, read', named, found⟩)
      · exact differs other
      · cases read.symm.trans read'
        exact ⟨some, here, named, members, found⟩
  | mask sources =>
    rw [Edit.Rewrites, or_false]
    exact ⟨compares (unchanged_mask legible drafted), differs⟩
  | remove source =>
    rw [Edit.Rewrites, or_false]
    exact ⟨compares (unchanged_remove legible drafted), differs⟩
  | rename old new =>
    rw [Edit.Rewrites, or_false]
    exact ⟨compares (unchanged_rename legible.formed drafted), differs⟩

/-- The text that comes of an edit that leaves the document as it is. -/
theorem finish_of_same {edit : Edit} {document : Json} {depth : Nat} (legible : document.Legible depth)
    {draft : Draft} (drafted : edit.draft document = .ok draft) (same : draft.document = document) (text : String) :
    (¬ edit.Rewrites document → draft.finish text = text) ∧
      (edit.Rewrites document → draft.finish text = document.render) := by
  have changed := changed_draft_iff legible drafted
  rw [same] at changed
  constructor
  · intro kept
    have unchanged : draft.changed = false :=
      Bool.eq_false_of_not_eq_true fun marked => (changed.mp marked).elim (absurd rfl) kept
    rw [Draft.finish, unchanged]
    rfl
  · intro rewrites
    rw [Draft.finish, changed.mpr (.inr rewrites), same]
    rfl

end Relay.Json
