import Relay.Proofs.Json.Locating
import Relay.Proofs.Json.RenamingBack
import Relay.Proofs.Json.Replacing

/-!
# Members merged into objects

An edit merges metadata into one named object after another. Where no named location lies below another one, each of
the objects ends up with the metadata bound in it and all else is as it was (`merges_into_named_objects`). A path
without recursive segments names the same locations afterwards, so merging a second time changes nothing.
-/

namespace Relay.Json

/-! ### Members bound one after another -/

namespace Members

variable {α : Type} {metadata members : Members α}

/-- The members with each of the metadata bound in them, in order. -/
def bindAll (metadata members : Members α) : Members α :=
  metadata.foldl (fun read member => insert member.1 member.2 read) members

theorem get?_bindAll (ordered : Ordered metadata) (members : Members α) (name : String) :
    get? name (bindAll metadata members) = (get? name metadata).or (get? name members) := by
  unfold bindAll
  induction metadata generalizing members with
  | nil => rfl
  | cons first rest ih =>
    obtain ⟨before, later⟩ := List.pairwise_cons.mp ordered
    rw [List.foldl_cons, ih later, get?_insert, get?]
    split
    · rename_i here
      have absent : get? name rest = none := by
        refine Option.eq_none_iff_forall_ne_some.mpr fun value found => ?_
        exact String.lt_irrefl first.1 (here ▸ before _ (mem_of_get? found))
      rw [absent]
      rfl
    · rfl

theorem ordered_bindAll (ordered : Ordered members) (metadata : Members α) :
    Ordered (bindAll metadata members) := by
  unfold bindAll
  induction metadata generalizing members with
  | nil => exact ordered
  | cons first rest ih => exact ih (ordered.insert first.1 first.2)

theorem bindAll_bindAll (ordered : Ordered metadata) (ordered' : Ordered members) :
    bindAll metadata (bindAll metadata members) = bindAll metadata members := by
  have once := ordered_bindAll ordered' metadata
  refine (ordered_bindAll once metadata).ext once fun name => ?_
  rw [get?_bindAll ordered, get?_bindAll ordered]
  cases get? name metadata <;> rfl

end Members

/-! ### Metadata with the time -/

/-- A value of the metadata as it is merged: the time in place of the mark for it. -/
def timed (now : Instant) : Json → Json
  | .str s => if s = timestampMark then .str now.text else .str s
  | v => v

theorem stamped_eq_map (now : Instant) (metadata : Members Json) :
    stamped now metadata = metadata.map fun member => (member.1, timed now member.2) := by
  refine List.map_congr_left fun member _ => ?_
  obtain ⟨name, value⟩ := member
  cases value with
  | str s =>
    simp only [timed]
    split <;> rfl
  | _ => rfl

theorem get?_stamped (now : Instant) (metadata : Members Json) (name : String) :
    Members.get? name (stamped now metadata) = (Members.get? name metadata).map (timed now) := by
  rw [stamped_eq_map]
  induction metadata with
  | nil => rfl
  | cons member rest ih =>
    rw [List.map_cons, Members.get?, Members.get?]
    split
    · rfl
    · exact ih

theorem ordered_stamped (now : Instant) {metadata : Members Json} (ordered : metadata.Ordered) :
    (stamped now metadata).Ordered := by
  rw [stamped_eq_map]
  exact List.pairwise_map.mpr ordered

/-! ### Changes at locations that are apart -/

/-- No location lies below another one. -/
def Location.Apart (locations : List Location) : Prop :=
  ∀ here ∈ locations, ∀ other ∈ locations, ¬ here.Above other

section Apart

variable {f : Json → Option Json} {document : Json} {locations : List Location}

theorem answers_of_not_mem {here : Location} (unlisted : here ∉ locations) :
    answers f document locations here = none := if_neg unlisted

theorem get?_overlay_answers (apart : Location.Apart locations) {here : Location} (listed : here ∈ locations)
    {node : Json} (found : document.get? here = some node) :
    (overlay (answers f document locations) document).get? here = some ((f node).getD node) := by
  have unhit : ∀ above, above.Above here → answers f document locations above = none :=
    fun above below => answers_of_not_mem fun met => apart above met here listed below
  have root : answers f document locations (here ++ []) = f node := by
    rw [List.append_nil, answers, if_pos listed, found, Option.bind_some]
  rw [get?_overlay unhit, found, Option.map_some]
  cases answer : f node with
  | some w => rw [overlay_of_some (root.trans answer), Option.getD_some]
  | none =>
    have none : ∀ below, answers f document locations (here ++ below) = none := by
      intro below
      cases below with
      | nil => exact root.trans answer
      | cons step rest => exact answers_of_not_mem fun met => apart here listed _ met ⟨step, rest, rfl⟩
    rw [overlay_of_none none, Option.getD_none]

theorem document_changeAll_of_apart (apart : Location.Apart locations)
    (ordered : locations.Pairwise fun first later => ¬ later <+: first) :
    ((Draft.start document).changeAll f locations).document =
      overlay (answers f document locations) document :=
  changeAll_eq_overlay (.start document)
    (fun above first here second below => absurd below (apart above first here second)) ordered

end Apart

/-! ### Paths without recursive segments -/

/-- No segment of the path is recursive. -/
def Path.Plain (path : Path) : Prop := ∀ segment ∈ path.segments, segment.recursive = false

theorem pointed_segment {form : SegmentForm} (recursive : form.segment.recursive = true) :
    ['.', '.'] <+: form.chars := by
  cases form with
  | memberBelow m => exact List.prefix_append _ _
  | listBelow l => exact List.prefix_append _ _
  | _ => cases recursive

/-- A recursive segment has two points before it in the text. -/
theorem pointed_path {form : PathForm} {segment : Segment} (listed : segment ∈ form.segments)
    (recursive : segment.recursive = true) : ['.', '.'] <:+: form.chars := by
  have among (forms : List SegmentForm) (listed : segment ∈ forms.map SegmentForm.segment) :
      ['.', '.'] <:+: forms.flatMap SegmentForm.chars := by
    obtain ⟨part, present, rfl⟩ := List.mem_map.mp listed
    exact (pointed_segment recursive).isInfix.trans (List.infix_of_mem_flatten (List.mem_map_of_mem present))
  cases form with
  | root forms => exact (among forms listed).trans (List.suffix_cons _ _).isInfix
  | bare first unrooted forms =>
    rcases List.mem_cons.mp listed with rfl | later
    · cases recursive
    · exact (among forms later).trans (List.suffix_append _ _).isInfix
  | relative first forms => exact among (first :: forms) listed

theorem Path.plain_of_parse {source : String} {path : Path} (read : parse source = .ok path)
    (unpointed : ¬ ['.', '.'] <:+: source.toList) : path.Plain := by
  intro segment listed
  obtain ⟨-, form, written, meaning⟩ := parse_eq_ok_iff.mp read
  refine Bool.eq_false_of_not_eq_true fun recursive => unpointed ?_
  exact (written ▸ pointed_path (meaning ▸ listed) recursive).trans (Text.trimmed_isInfix _)

theorem Names.length_eq {segments : List Segment} (plain : ∀ segment ∈ segments, segment.recursive = false)
    {v : Json} {location : Location} (names : Names segments v location) : location.length = segments.length := by
  induction names with
  | nil => rfl
  | cons leads found names ih =>
    obtain ⟨here, later⟩ := List.forall_mem_cons.mp plain
    obtain ⟨way, step, below, rfl, direct, -⟩ := leads
    rw [direct here, List.length_append, ih later, List.length_cons, Nat.add_comm]
    rfl

section Plain

variable {path : Path} (plain : path.Plain) {document : Json} (formed : document.WellFormed)
include plain formed

theorem length_of_mem_locate {here : Location} (listed : here ∈ path.locate document) :
    here.length = path.segments.length := ((mem_locate formed).mp listed).length_eq plain

theorem apart_locate : Location.Apart (path.locate document) := by
  intro here listed other listed'
  refine Location.not_above_of_length_eq ?_
  rw [length_of_mem_locate plain formed listed, length_of_mem_locate plain formed listed']

/-- Changes at the locations that a plain path names leave it naming the same ones. -/
theorem mem_locate_overlay {f : Json → Option Json}
    (formed' : (overlay (answers f document (path.locate document)) document).WellFormed) {here : Location} :
    here ∈ path.locate (overlay (answers f document (path.locate document)) document) ↔
      here ∈ path.locate document := by
  have unhit : here.length = path.segments.length → ∀ above, above.Above here →
      answers f document (path.locate document) above = none := by
    intro length above below
    refine answers_of_not_mem fun met => ?_
    exact Location.not_above_of_length_eq ((length_of_mem_locate plain formed met).trans length.symm) below
  rw [mem_locate formed, mem_locate formed']
  constructor
  · intro names
    refine names.congr fun above higher => AlikeAt.symm (alikeAt_overlay (fun top reaches => ?_) document)
    exact unhit (names.length_eq plain) top (higher.of_prefix reaches)
  · intro names
    exact names.overlay (unhit (names.length_eq plain))

end Plain

theorem settles_self (new : Location → Option Json) : Settles new new := by
  intro here w hit
  have root : new (here ++ []) = some w := by rw [List.append_nil, hit]
  rw [overlay_of_some root, hit, Option.getD_some]

/-- What keeps its own answers is not changed again along a plain path. -/
theorem overlay_answers_again {f : Json → Option Json}
    (again : ∀ node w, node.WellFormed → f node = some w → f w = some w) {path : Path} (plain : path.Plain)
    {document : Json} (formed : document.WellFormed)
    (formed' : (overlay (answers f document (path.locate document)) document).WellFormed) :
    let after := overlay (answers f document (path.locate document)) document
    overlay (answers f after (path.locate after)) after = after := by
  intro after
  have same : answers f after (path.locate after) = answers f document (path.locate document) := by
    funext here
    by_cases listed : here ∈ path.locate document
    · obtain ⟨node, found⟩ := ((mem_locate formed).mp listed).exists_get?
      have left : after.get? here = some ((f node).getD node) :=
        get?_overlay_answers (apart_locate plain formed) listed found
      rw [answers, answers, if_pos ((mem_locate_overlay plain formed formed').mpr listed), if_pos listed, left,
        found, Option.bind_some, Option.bind_some]
      cases answer : f node with
      | some w => exact again node w (formed.get? found) answer
      | none => exact answer
    · have unlisted : here ∉ path.locate after := fun met => listed ((mem_locate_overlay plain formed formed').mp met)
      rw [answers_of_not_mem listed, answers_of_not_mem unlisted]
  rw [same]
  refine (overlay_overlay (settles_self _) document).trans (congrArg (overlay · document) (funext fun here => ?_))
  exact Option.or_self

/-! ### Metadata merged -/

/-- The members after a merge: each name of the metadata is bound to its value, with the time for the mark, and all
others are as before. -/
structure Bound (now : Instant) (metadata before after : Members Json) : Prop where
  bound : ∀ name value, Members.get? name metadata = some value →
    Members.get? name after = some (timed now value)
  kept : ∀ name, Members.get? name metadata = none → Members.get? name after = Members.get? name before

/-- After the edit the named objects have the metadata bound in them, and all else is as before: other named nodes
with what is below them, and the nodes that are neither named nor below a named one. -/
structure Merged (named : Location → Prop) (now : Instant) (metadata : Members Json) (before after : Json) :
    Prop where
  objects : ∀ here members, named here → before.get? here = some (.obj members) →
    ∃ members', after.get? here = some (.obj members') ∧ Bound now metadata members members'
  rest : ∀ here, named here → (∀ members, before.get? here ≠ some (.obj members)) →
    after.get? here = before.get? here
  others : ∀ here, (∀ above, above <+: here → ¬ named above) → AlikeAt before after here

theorem Bound.unique {now : Instant} {metadata before after after' : Members Json}
    (bound : Bound now metadata before after) (bound' : Bound now metadata before after')
    (ordered : after.Ordered) (ordered' : after'.Ordered) : after = after' := by
  refine ordered.ext ordered' fun name => ?_
  cases found : Members.get? name metadata with
  | some value => rw [bound.bound name value found, bound'.bound name value found]
  | none => rw [bound.kept name found, bound'.kept name found]

theorem merged_obj (metadata members : Members Json) :
    (merged metadata (.obj members)).getD (.obj members) = .obj (Members.bindAll metadata members) := by
  rw [merged]
  cases metadata with
  | nil => rfl
  | cons => rfl

theorem merged_of_not_obj {metadata : Members Json} {node : Json} (other : ∀ members, node ≠ .obj members) :
    merged metadata node = none := by
  cases node with
  | obj members => exact absurd rfl (other members)
  | _ => rfl

theorem merged_nil (node : Json) : merged [] node = none := by
  cases node <;> rfl

theorem merged_again {metadata : Members Json} (ordered : metadata.Ordered) (node w : Json)
    (formed : node.WellFormed) (answer : merged metadata node = some w) : merged metadata w = some w := by
  unfold merged at answer
  split at answer
  · rename_i members
    split at answer <;> cases answer
    rename_i some
    rw [merged, if_neg some]
    exact congrArg (Option.some ∘ Json.obj) (Members.bindAll_bindAll ordered formed.1)
  · cases answer

theorem bound_bindAll (now : Instant) {metadata : Members Json} (ordered : metadata.Ordered)
    (members : Members Json) : Bound now metadata members (Members.bindAll (stamped now metadata) members) where
  bound name value found := by
    rw [Members.get?_bindAll (ordered_stamped now ordered), get?_stamped, found]
    rfl
  kept name absent := by
    rw [Members.get?_bindAll (ordered_stamped now ordered), get?_stamped, absent]
    rfl

theorem merged_overlay (now : Instant) {metadata : Members Json} (ordered : metadata.Ordered) {path : Path}
    {document : Json} (formed : document.WellFormed) (apart : Location.Apart (path.locate document)) :
    Merged (· ∈ path.locate document) now metadata document
      (overlay (answers (merged (stamped now metadata)) document (path.locate document)) document) where
  objects here members listed found := by
    refine ⟨_, ?_, bound_bindAll now ordered members⟩
    rw [get?_overlay_answers apart listed found, merged_obj]
  rest here listed other := by
    obtain ⟨node, found⟩ := ((mem_locate formed).mp listed).exists_get?
    have none : merged (stamped now metadata) node = none :=
      merged_of_not_obj fun members same => other members (same ▸ found)
    rw [get?_overlay_answers apart listed found, none, found, Option.getD_none]
  others here unnamed := alikeAt_overlay (fun above reaches => answers_of_not_mem (unnamed above reaches)) document

/-- What is said of the document after a merge determines it. -/
theorem Merged.unique {locations : List Location} {now : Instant} {metadata : Members Json}
    {before after after' : Json} (formed : after.WellFormed) (formed' : after'.WellFormed)
    (merged : Merged (· ∈ locations) now metadata before after)
    (merged' : Merged (· ∈ locations) now metadata before after') : after = after' := by
  refine eq_of_alikeAt formed formed' fun here => ?_
  by_cases named : ∃ above, above <+: here ∧ above ∈ locations
  · obtain ⟨top, ⟨below, rfl⟩, listed⟩ := named
    have same : after.get? top = after'.get? top := by
      by_cases object : ∃ members, before.get? top = some (.obj members)
      · obtain ⟨members, found⟩ := object
        obtain ⟨one, left, bound⟩ := merged.objects top members listed found
        obtain ⟨other, left', bound'⟩ := merged'.objects top members listed found
        rw [left, left', bound.unique bound' (formed.get? left).1 (formed'.get? left').1]
      · have other : ∀ members, before.get? top ≠ some (.obj members) := fun members found =>
          object ⟨members, found⟩
        rw [merged.rest top listed other, merged'.rest top listed other]
    rw [AlikeAt, get?_append, get?_append, same]
  · have unnamed : ∀ above, above <+: here → above ∉ locations := fun above reaches listed =>
      named ⟨above, reaches, listed⟩
    exact (merged.others here unnamed).symm.trans (merged'.others here unnamed)

/-! ### Texts with metadata merged -/

section Texts

variable {text source : String} {document : Json} {path : Path}

theorem draft_inject (read : Path.parse source = .ok path) (named : path.locate document ≠ [])
    (metadata : Members Json) (now : Instant) :
    (Edit.inject source metadata now).draft document =
      .ok (mergeAt (stamped now metadata) (path.locate document) document) := by
  rw [Edit.draft, located_eq_ok_iff.mpr ⟨path, read, rfl, named⟩]
  rfl

theorem document_mergeAt (metadata : Members Json) (formed : document.WellFormed)
    (apart : Location.Apart (path.locate document)) :
    (mergeAt metadata (path.locate document) document).document =
      overlay (answers (merged metadata) document (path.locate document)) document :=
  document_changeAll_of_apart apart (pairwise_locate path formed)

/-- Merging along a plain path a second time changes nothing. -/
theorem document_mergeAt_again {metadata : Members Json} (ordered : metadata.Ordered) (plain : path.Plain)
    (formed : document.WellFormed)
    (formed' : (mergeAt metadata (path.locate document) document).document.WellFormed) :
    let after := (mergeAt metadata (path.locate document) document).document
    (mergeAt metadata (path.locate after) after).document = after := by
  intro after
  have whole : after = overlay (answers (merged metadata) document (path.locate document)) document :=
    document_mergeAt metadata formed (apart_locate plain formed)
  have again : (mergeAt metadata (path.locate after) after).document =
      overlay (answers (merged metadata) after (path.locate after)) after :=
    document_mergeAt metadata formed' (apart_locate plain formed')
  have formed'' : after.WellFormed := formed'
  rw [again]
  rw [whole] at formed'' ⊢
  exact overlay_answers_again (merged_again ordered) plain formed formed''

theorem locate_mergeAt_ne_nil {metadata : Members Json} (plain : path.Plain) (formed : document.WellFormed)
    (formed' : (mergeAt metadata (path.locate document) document).document.WellFormed)
    (named : path.locate document ≠ []) :
    path.locate (mergeAt metadata (path.locate document) document).document ≠ [] := by
  obtain ⟨first, listed⟩ := List.exists_mem_of_ne_nil _ named
  rw [document_mergeAt metadata formed (apart_locate plain formed)] at formed' ⊢
  exact List.ne_nil_of_mem ((mem_locate_overlay plain formed formed').mpr listed)

/-- Merging along a path that names something succeeds. Where the path names no location below another one, exactly
the named objects have the metadata bound in them afterwards; where there is no named object, or nothing to merge,
the text stays as it is. Along a path without two points the second time leaves the document as it is, and the text as
well if the numbers in it are read back. -/
theorem merges_into_named_objects (parsed : parse text = .ok document) (read : Path.parse source = .ok path)
    (named : path.locate document ≠ []) {metadata : Members Json} {now : Instant}
    (writable : (Edit.inject source metadata now).Writable) :
    let edit := Edit.inject source metadata now
    let locations := path.locate document
    ∃ draft, edit.draft document = .ok draft ∧ edit.attempt text = .ok (draft.finish text) ∧
      (draft.finish text = draft.document.render ∨ draft.finish text = text ∧ draft.document = document) ∧
      (Location.Apart locations → Merged (· ∈ locations) now metadata document draft.document) ∧
      ((metadata = [] ∨ ∀ here ∈ locations, ∀ members, document.get? here ≠ some (.obj members)) →
        draft.finish text = text ∧ draft.document = document) ∧
      (¬ ['.', '.'] <:+: source.toList → path.Plain) ∧
      (path.Plain → Location.Apart locations ∧
        (∃ again, edit.draft draft.document = .ok again ∧ again.document = draft.document) ∧
        (draft.document.NumbersReadBack → edit.apply (draft.finish text) = draft.finish text)) := by
  intro edit locations
  have formed := (legible_of_parse parsed).formed
  have ordered : metadata.Ordered := writable.1.1
  have drafted := draft_inject read named metadata now
  obtain ⟨deeper, legible, -⟩ := legible_draft writable drafted (legible_of_parse parsed)
  refine ⟨_, drafted, attempt_eq_ok.mpr ⟨document, _, parsed, drafted, rfl⟩, finish_of_drafted drafted text,
    fun apart => ?_, fun nothing => ?_, Path.plain_of_parse read, fun plain => ⟨apart_locate plain formed, ?_⟩⟩
  · rw [document_mergeAt _ formed apart]
    exact merged_overlay now ordered formed apart
  · have same : mergeAt (stamped now metadata) (path.locate document) document = .start document := by
      refine changeAll_of_none fun here listed => ?_
      refine Option.bind_eq_none_iff.mpr fun node found => ?_
      rcases nothing with rfl | other
      · exact merged_nil node
      · exact merged_of_not_obj fun members same => other here listed members (same ▸ found)
    rw [same]
    exact ⟨rfl, rfl⟩
  · have again := document_mergeAt_again (ordered_stamped now ordered) plain formed legible.formed
    have namedAgain := locate_mergeAt_ne_nil plain formed legible.formed named
    have draftedAgain := draft_inject read namedAgain metadata now
    refine ⟨⟨_, draftedAgain, again⟩, fun numbers => ?_⟩
    refine apply_again writable parsed drafted numbers fun draft' drafted' => ?_
    cases drafted'.symm.trans draftedAgain
    exact again

end Texts

theorem mark_is_replaced_at_the_top_only :
    let mark : Json := .str timestampMark
    let document : Json := .obj [("a", .obj [("k", .null), ("n", .bool true)]), ("b", .arr [.obj []])]
    let now : Instant := ⟨0, 0⟩
    let edit := Edit.inject "$.*" [("at", mark), ("k", .arr [mark])] now
    ∃ (draft : Draft) (members : Members Json),
      edit.draft document = .ok draft ∧ edit.attempt document.render = .ok draft.document.render ∧
      draft.document.get? [.key "a"] = some (.obj members) ∧ Members.get? "at" members = some (.str now.text) ∧
      Members.get? "k" members = some (.arr [mark]) ∧ Members.get? "n" members = some (.bool true) ∧
      draft.document.get? [.key "b"] = document.get? [.key "b"] ∧
      ∃ again, edit.draft draft.document = .ok again ∧ again.document = draft.document := by
  intro mark document now edit
  have legible : document.Legible maxDepth := by
    have first : "a" < "b" := by decide
    have inner : "k" < "n" := by decide
    refine ⟨?_, ?_, by decide⟩
    · simp only [document, WellFormed, WellFormedMembers, WellFormedItems, Members.Ordered, List.pairwise_pair,
        List.Pairwise.nil, first, inner, and_self]
    · simp [document, NumbersValid, NumbersValidMembers, NumbersValidItems]
  have writable : edit.Writable := by
    have sorted : "at" < "k" := by decide
    refine ⟨?_, ?_⟩
    · simp only [mark, WellFormed, WellFormedMembers, WellFormedItems, Members.Ordered, List.pairwise_pair, sorted,
        and_self]
    · simp [mark, NumbersValid, NumbersValidMembers, NumbersValidItems]
  let path : Path := ⟨"$.*", [⟨false, [.wildcard]⟩]⟩
  have read : Path.parse "$.*" = .ok path := rfl
  have locations : path.locate document = [[.key "a"], [.key "b"]] := by decide
  obtain ⟨draft, drafted, attempted, outcome, exact', -, plain, again⟩ :=
    merges_into_named_objects (legible.parse_render_self rfl) read (locations ▸ List.cons_ne_nil _ _) writable
  obtain ⟨apart, unchanged, -⟩ := again (plain (by decide))
  have merged := exact' apart
  obtain ⟨members, found, bound⟩ := merged.objects [.key "a"] _ (by simp [locations]) rfl
  have whole : draft.finish document.render = draft.document.render := by
    rcases outcome with written | ⟨same, same'⟩
    · exact written
    · rw [same, same']
  have list := merged.rest [.key "b"] (by simp [locations]) fun members same => by cases same
  exact ⟨draft, members, drafted, whole ▸ attempted, found, bound.bound "at" mark rfl,
    bound.bound "k" (.arr [mark]) rfl, bound.kept "n" rfl, list, unchanged⟩

end Relay.Json
