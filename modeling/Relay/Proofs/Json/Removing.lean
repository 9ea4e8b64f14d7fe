import Relay.Proofs.Json.EditedText
import Relay.Proofs.Json.Locating
import Relay.Proofs.Json.Pruning
import Relay.Proofs.Json.Reread

/-!
# Members removed for good

A removal takes one location after another and may find that a member went with one above it. The outcome is that of
leaving out all the members that the path names at once: `document_removeMembers`. Since leaving members out makes
no path name anything new, nothing is left to remove the second time.
-/

namespace Relay.Json

/-! ### One removal -/

theorem update_congr {v : Json} (formed : v.WellFormed) {f g : Json → Json} {location : Location}
    (same : ∀ node, v.get? location = some node → f node = g node) : v.update f location = v.update g location := by
  induction location generalizing v with
  | nil =>
    have here : f v = g v := same v rfl
    cases v <;> exact here
  | cons step rest ih =>
    have inside : ∀ child, v.child? step = some child → child.update f rest = child.update g rest := by
      intro child found
      refine ih (formed.child found) fun node there => same node ?_
      rw [get?, found]
      exact there
    cases v with
    | arr items =>
      cases step with
      | index i =>
        refine congrArg Json.arr (List.ext_getElem? fun j => ?_)
        rw [List.getElem?_modify, List.getElem?_modify]
        refine Option.map_congr fun item found => ?_
        by_cases here : i = j
        · rw [if_pos here, if_pos here]
          exact inside item (by rw [here]; exact found)
        · rw [if_neg here, if_neg here]
      | key name => rfl
    | obj members =>
      cases step with
      | index i => rfl
      | key name =>
        refine congrArg Json.obj (List.map_congr_left fun member present => ?_)
        by_cases here : member.1 = name
        · have found : Members.get? name members = some member.2 := here ▸ Members.get?_of_mem formed.1 present
          rw [if_pos here, if_pos here, inside member.2 found]
        · rw [if_neg here, if_neg here]
    | _ => cases step <;> rfl

theorem update_id (v : Json) (location : Location) : v.update id location = v := by
  induction location generalizing v with
  | nil => cases v <;> rfl
  | cons step rest ih =>
    cases v with
    | arr items =>
      cases step with
      | index i =>
        have same : (fun item => update id item rest) = id := funext ih
        rw [update, same, List.modify_id]
      | key name => rfl
    | obj members =>
      cases step with
      | index i => rfl
      | key name => simp [update, ih]
    | _ => cases step <;> rfl

theorem document_change (f : Json → Option Json) (draft : Draft) (formed : draft.document.WellFormed)
    (location : Location) :
    (draft.change f location).document = draft.document.update (fun node => (f node).getD node) location := by
  rw [Draft.change]
  cases answer : (draft.document.get? location).bind f with
  | some w =>
    obtain ⟨node, found, answer⟩ := Option.bind_eq_some_iff.mp answer
    refine update_congr formed fun other there => ?_
    cases found.symm.trans there
    rw [answer, Option.getD_some]
  | none =>
    refine (update_id draft.document location).symm.trans (update_congr formed fun node found => ?_)
    rw [found, Option.bind_some] at answer
    rw [answer, Option.getD_none, id]

theorem Members.isSome_get?_of_mem {α : Type} {members : Members α} {member : String × α}
    (present : member ∈ members) : (Members.get? member.1 members).isSome := by
  induction members with
  | nil => cases present
  | cons first rest ih =>
    rw [Members.get?]
    split
    · rfl
    · rename_i other
      rcases List.mem_cons.mp present with rfl | later
      · exact absurd rfl other
      · exact ih later

/-- Leaving out one member of a node is removing it if it is there. -/
theorem pruned_isAt_key (name : String) (node : Json) :
    pruned (isAt [.key name]) node = (without name node).getD node := by
  have inside : ∀ (step : Step) (child : Json),
      pruned (fun below => isAt [.key name] (step :: below)) child = child := by
    intro step child
    refine pruned_of_none (fun next below => decide_eq_false fun same => ?_) child
    cases (List.cons.inj same).2
  cases node with
  | arr items =>
    have none : ∀ i below, isAt [.key name] (.index i :: below) = false := fun i below =>
      isAt_other Step.noConfusion [] below
    exact congrArg Json.arr (prunedItems_of_none none 0 items)
  | obj members =>
    have names : ∀ member : String × Json, (!isAt [.key name] [.key member.1]) = (member.1 != name) := by
      intro member
      by_cases same : member.1 = name <;> simp [isAt, same]
    have erased : pruned (isAt [.key name]) (.obj members) = .obj (Members.erase name members) := by
      simp only [pruned, prunedMembers_eq, inside, names, List.map_id', Members.erase]
    rw [erased, without]
    split
    · rfl
    · rename_i absent
      refine congrArg Json.obj (List.filter_eq_self.mpr fun member present => bne_iff_ne.mpr fun same => absent ?_)
      exact same ▸ Members.isSome_get?_of_mem present
  | _ => rfl

theorem document_removeAt (draft : Draft) (formed : draft.document.WellFormed) (location : Location) :
    (removeAt draft location).document =
      pruned (fun here => here.isMember && isAt location here) draft.document := by
  have one : ∀ here : Location,
      (here.isMember && isAt location here) = (location.isMember && isAt location here) := by
    intro here
    by_cases same : here = location <;> simp [isAt, same]
  simp only [one]
  have kept : location.isMember = false →
      pruned (fun here => location.isMember && isAt location here) draft.document = draft.document := by
    intro element
    exact pruned_of_none (fun step below => by rw [element, Bool.false_and]) draft.document
  rcases List.eq_nil_or_concat' location with rfl | ⟨front, last, rfl⟩
  · exact (kept rfl).symm
  · cases last with
    | index i =>
      have element : Location.isMember (front ++ [.index i]) = false := by simp [Location.isMember]
      rw [kept element]
      simp [removeAt]
    | key name =>
      have member : Location.isMember (front ++ [.key name]) = true := by simp [Location.isMember]
      have changed : removeAt draft (front ++ [.key name]) = draft.change (without name) front := by simp [removeAt]
      have whole : ∀ node, pruned (isAt [.key name]) node = (without name node).getD node := pruned_isAt_key name
      simp only [member, Bool.true_and]
      rw [changed, document_change (without name) draft formed]
      rw [← funext whole]
      exact update_eq_pruned front (List.cons_ne_nil _ _) draft.document

/-! ### One after another -/

/-- Whether a location is that of a member and listed. -/
def listedMember (locations : List Location) (here : Location) : Bool := here.isMember && locations.contains here

/-- Removing along a list of locations is leaving out at once the members that it lists. -/
theorem document_removeMembers {document : Json} {depth : Nat} (legible : document.Legible depth)
    (locations : List Location) :
    (removeMembers locations document).document = pruned (listedMember locations) document := by
  induction locations using List.reverseRecOn with
  | nil => exact (pruned_of_none (fun step below => by simp [listedMember]) document).symm
  | append_singleton front last ih =>
    have whole : removeMembers (front ++ [last]) document = removeAt (removeMembers front document) last :=
      List.foldl_concat ..
    have formed : (removeMembers front document).document.WellFormed := (legible_removeMembers legible).formed
    rw [whole, document_removeAt _ formed, ih, pruned_pruned]
    refine congrArg (pruned · document) (funext fun here => ?_)
    have listed : (front ++ [last]).contains here = (front.contains here || isAt last here) := by simp [isAt]
    rw [listedMember, listedMember, listed, Bool.and_or_distrib_left]

theorem listedMember_eq_true {locations : List Location} {here : Location} :
    listedMember locations here = true ↔ here ∈ locations ∧ here.isMember = true := by
  simp [listedMember, and_comm]

theorem onlyMembers_listedMember (locations : List Location) : OnlyMembers (listedMember locations) := by
  intro front i
  have element : Location.isMember (front ++ [.index i]) = false := by simp [Location.isMember]
  rw [listedMember, element, Bool.false_and]

theorem removeMembers_of_elements {locations : List Location} (document : Json)
    (elements : ∀ here ∈ locations, here.isMember = false) :
    removeMembers locations document = .start document := by
  induction locations with
  | nil => rfl
  | cons location rest ih =>
    obtain ⟨element, later⟩ := List.forall_mem_cons.mp elements
    have same : removeAt (.start document) location = .start document := by
      unfold removeAt
      unfold Location.isMember at element
      split
      · rename_i name last
        rw [last] at element
        cases element
      · rfl
    rw [removeMembers, List.foldl_cons, same]
    exact ih later

/-! ### What is removed -/

/-- The members that are gone are not found any more, nor is anything below them. All other nodes are as before,
but for the names that are gone. -/
structure Removed (gone : Location → Bool) (before after : Json) : Prop where
  absent : ∀ top here, gone top = true → top <+: here → after.get? here = none
  others : ∀ here, (∀ top, top <+: here → gone top = false) →
    (after.get? here).map shell =
      (before.get? here).map fun node => node.shellWithout fun name => gone (here ++ [.key name])

theorem removed_pruned {gone : Location → Bool} (only : OnlyMembers gone) (root : gone [] = false)
    (document : Json) : Removed gone document (pruned gone document) := by
  constructor
  · intro top here left reaches
    refine get?_pruned_of_gone only left ?_ reaches document
    rintro rfl
    rw [root] at left
    cases left
  · intro here stays
    rw [get?_pruned stays, Option.map_map]
    exact congrArg (Option.map · (document.get? here)) (funext fun node => shell_pruned node)

/-- What is said of the document after a removal determines it. -/
theorem Removed.unique {gone : Location → Bool} {before after after' : Json} (formed : after.WellFormed)
    (formed' : after'.WellFormed) (removed : Removed gone before after) (removed' : Removed gone before after') :
    after = after' := by
  refine eq_of_alikeAt formed formed' fun here => ?_
  by_cases stays : ∀ top, top <+: here → gone top = false
  · exact (removed.others here stays).trans (removed'.others here stays).symm
  · simp only [not_forall, Bool.not_eq_false] at stays
    obtain ⟨top, reaches, left⟩ := stays
    rw [AlikeAt, removed.absent top here left reaches, removed'.absent top here left reaches]

/-- On what a removal leaves, the path names no member. -/
theorem isMember_of_locate_removed {path : Path} {document : Json} {depth : Nat}
    (legible : document.Legible depth) {here : Location}
    (named : here ∈ path.locate (removeMembers (path.locate document) document).document) :
    here.isMember = false := by
  have formed' : (removeMembers (path.locate document) document).document.WellFormed :=
    (legible_removeMembers legible).formed
  have only := onlyMembers_listedMember (path.locate document)
  have names := (mem_locate formed').mp named
  rw [document_removeMembers legible] at names
  have before : here ∈ path.locate document := (mem_locate legible.formed).mpr (names.of_pruned only rfl)
  refine Bool.eq_false_of_not_eq_true fun member => ?_
  obtain ⟨node, found⟩ := names.exists_get?
  have left : listedMember (path.locate document) here = true := listedMember_eq_true.mpr ⟨before, member⟩
  rw [(removed_pruned only rfl document).absent here here left (List.prefix_refl here)] at found
  cases found

/-! ### Texts with members removed -/

section Texts

variable {text source : String} {document : Json} {path : Path}

theorem draft_remove (read : Path.parse source = .ok path) (named : path.locate document ≠ []) :
    (Edit.remove source).draft document = .ok (removeMembers (path.locate document) document) := by
  rw [Edit.draft, located_eq_ok_iff.mpr ⟨path, read, rfl, named⟩]
  rfl

theorem succeeds_remove (parsed : parse text = .ok document) (read : Path.parse source = .ok path)
    (named : path.locate document ≠ []) :
    (Edit.remove source).Succeeds text document (removeMembers (path.locate document) document) :=
  succeeds_of_drafted rfl parsed (draft_remove read named)

theorem attempt_remove_of_elements (parsed : parse text = .ok document) (read : Path.parse source = .ok path)
    (named : path.locate document ≠ []) (elements : ∀ here ∈ path.locate document, here.isMember = false) :
    (Edit.remove source).attempt text = .ok text := by
  have attempted := (succeeds_remove parsed read named).attempted
  rw [removeMembers_of_elements document elements] at attempted
  exact attempted

theorem apply_remove_of_elements (parsed : parse text = .ok document) (read : Path.parse source = .ok path)
    (elements : ∀ here ∈ path.locate document, here.isMember = false) : (Edit.remove source).apply text = text := by
  by_cases named : path.locate document = []
  · have failed : (Edit.remove source).draft document = .error (.noNodes source) := by
      rw [Edit.draft, located_of_none read named]
      rfl
    exact apply_of_attempt_error (attempt_of_not_drafted parsed failed)
  · exact apply_of_attempt_ok (attempt_remove_of_elements parsed read named elements)

theorem apply_remove_remove (source text : String) :
    (Edit.remove source).apply ((Edit.remove source).apply text) = (Edit.remove source).apply text := by
  cases done : (Edit.remove source).attempt text with
  | error error => rw [apply_of_attempt_error done, apply_of_attempt_error done]
  | ok output =>
    rw [apply_of_attempt_ok done]
    obtain ⟨document, draft, parsed, drafted, rfl⟩ := attempt_eq_ok.mp done
    have reread := parse_finish_of_flat rfl parsed drafted
    have legible := legible_of_parse parsed
    have formed' := (legible_draft_of_flat rfl drafted legible).formed
    obtain ⟨locations, found, drafted⟩ := bind_ok drafted
    cases drafted
    obtain ⟨path, read, rfl, named⟩ := located_eq_ok_iff.mp found
    refine apply_remove_of_elements reread read fun here listed => ?_
    have left : here ∈ path.locate (removeMembers (path.locate document) document).document := by
      rcases Draft.reading_cases (removeMembers (path.locate document) document) with same | same <;> rw [same] at listed
      · exact listed
      · exact (mem_locate_reread formed').mp listed
    exact isMember_of_locate_removed legible left

end Texts

/-- A removal along a path that names something succeeds. It leaves out the members that the path names and
nothing else; where the path names only elements of lists or the root, it leaves the text. A second removal leaves the
text of the first one, whatever the text was, also where numbers are not read back. -/
theorem removes_named_members_for_good (source text : String) :
    let edit := Edit.remove source
    (∀ document path, parse text = .ok document → Path.parse source = .ok path → path.locate document ≠ [] →
      ∃ draft, edit.Succeeds text document draft ∧
        Removed (listedMember (path.locate document)) document draft.document ∧
        ((∀ here ∈ path.locate document, here.isMember = false) → draft.finish text = text) ∧
        ∀ here ∈ path.locate draft.document, here.isMember = false) ∧
      edit.apply (edit.apply text) = edit.apply text := by
  intro edit
  refine ⟨fun document path parsed read named => ?_, apply_remove_remove source text⟩
  have legible := legible_of_parse parsed
  have succeeds := succeeds_remove parsed read named
  refine ⟨_, succeeds, ?_, ?_, fun here => isMember_of_locate_removed legible⟩
  · rw [document_removeMembers legible]
    exact removed_pruned (onlyMembers_listedMember _) rfl document
  · intro elements
    exact Except.ok.inj (succeeds.attempted.symm.trans (attempt_remove_of_elements parsed read named elements))

/-- The last element of the list loses its `a` and the `a` inside it; the first element and the other member stay. -/
theorem nested_members_are_removed :
    let document : Json := .obj [("list", .arr [.obj [("a", .null)],
      .obj [("a", .obj [("a", .bool true)]), ("b", .arr [.null])]])]
    let edit := Edit.remove "$.list[-1]..a"
    ∃ draft, edit.Succeeds document.render document draft ∧
      draft.document = .obj [("list", .arr [.obj [("a", .null)], .obj [("b", .arr [.null])]])] ∧
      edit.apply (draft.finish document.render) = draft.finish document.render := by
  intro document edit
  let path : Path := ⟨"$.list[-1]..a", [⟨false, [.name "list"]⟩, ⟨false, [.index (-1)]⟩, ⟨true, [.name "a"]⟩]⟩
  let listed : List Location :=
    [[.key "list", .index 1, .key "a"], [.key "list", .index 1, .key "a", .key "a"]]
  let left : Json := .obj [("list", .arr [.obj [("a", .null)], .obj [("b", .arr [.null])]])]
  have sorted : "a" < "b" := by decide
  have formed : document.WellFormed ∧ left.WellFormed := by
    simp only [document, left, WellFormed, WellFormedMembers, WellFormedItems, Members.Ordered, List.pairwise_pair,
      List.pairwise_singleton, sorted, and_self]
  have numbers : document.NumbersValid := by
    simp [document, NumbersValid, NumbersValidMembers, NumbersValidItems]
  have legible : document.Legible maxDepth := ⟨formed.1, numbers, by decide⟩
  have read : Path.parse "$.list[-1]..a" = .ok path := rfl
  have located : path.locate document = listed := by
    simp [path, listed, document, Path.locate, follow, Segment.follow, descendants, walk, selectAll, Selector.choose,
      Members.get?, position, nodesBelow, children, indexed, List.eraseDups_cons]
  have expected : pruned (listedMember listed) document = left := rfl
  obtain ⟨removes, again⟩ := removes_named_members_for_good "$.list[-1]..a" document.render
  obtain ⟨draft, succeeds, removed, -, -⟩ :=
    removes document path (legible.parse_render_self rfl) read (by rw [located]; exact List.cons_ne_nil _ _)
  rw [located] at removed
  have only : Removed (listedMember listed) document left :=
    expected ▸ removed_pruned (onlyMembers_listedMember listed) rfl document
  have formed' := (legible_draft_of_flat rfl succeeds.drafted legible).formed
  refine ⟨draft, succeeds, removed.unique formed' formed.2 only, ?_⟩
  rwa [apply_of_attempt_ok succeeds.attempted] at again

end Relay.Json
