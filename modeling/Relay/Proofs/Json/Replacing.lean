import Relay.Proofs.Json.EditedText
import Relay.Proofs.Json.NamingOrder

/-!
# Values replaced all at once

An edit replaces one node after another. It comes to a node before those below it, and so the outcome is that of
replacing all of them at once (`changeAll_eq_overlay`): what decides about a node is the document as it was.
-/

namespace Relay.Json

variable {f : Json → Option Json}

/-! ### One change after another -/

theorem changeAll_of_none {locations : List Location} {draft : Draft}
    (none : ∀ location ∈ locations, (draft.document.get? location).bind f = .none) :
    draft.changeAll f locations = draft := by
  induction locations with
  | nil => rfl
  | cons location rest ih =>
    obtain ⟨here, later⟩ := List.forall_mem_cons.mp none
    have same : draft.change f location = draft := by rw [Draft.change, here]
    rw [Draft.changeAll, List.foldl_cons, same]
    exact ih later

/-- A change of a node before any below it joins the changes made so far, as decided by the first document. Changes
of nodes above it have left nothing below them. -/
theorem change_overlay {new : Location → Option Json} {draft : Draft} {document : Json}
    (sofar : draft.document = overlay new document) {location : Location}
    (leaves : ∀ above w, above.Above location → new above = some w → w.IsLeaf)
    (first : ∀ below, new (location ++ below) = none) :
    (draft.change f location).document =
      overlay (fun here => if here = location then (document.get? location).bind f else new here) document := by
  rw [Draft.change, sofar]
  by_cases gone : ∃ above, above.Above location ∧ (new above).isSome
  · -- The node went with one above it.
    obtain ⟨above, below, hit⟩ := gone
    rw [get?_overlay_below below leaves hit, Option.bind_none]
    refine sofar.trans (overlay_congr (fun here unhit => ?_) document)
    have other : here ≠ location := by
      rintro rfl
      rw [unhit above below] at hit
      cases hit
    exact (if_neg other).symm
  · -- The node is still there, and so is all that was below it.
    have unhit : ∀ above, above.Above location → new above = none := fun above below =>
      Option.not_isSome_iff_eq_none.mp fun hit => gone ⟨above, below, hit⟩
    have kept : overlay (fun below => new (location ++ below)) = id := funext (overlay_of_none first)
    rw [get?_overlay unhit, kept, Option.map_id, id]
    cases (document.get? location).bind f with
    | none =>
      refine sofar.trans (congrArg (overlay · document) (funext fun here => ?_))
      split
      · rename_i here
        rw [here, ← List.append_nil location, first]
      · rfl
    | some w =>
      have free : ∀ above, above <+: location → new above = none := by
        intro above reaches
        rcases Location.prefix_iff.mp reaches with rfl | below
        · exact List.append_nil above ▸ first []
        · exact unhit above below
      refine (update_eq_overlay ..).trans ((overlay_overlay (settles_only free w) document).trans ?_)
      refine congrArg (overlay · document) (funext fun here => ?_)
      rw [only]
      split <;> rfl

/-- The answers of `f` about the nodes at some locations of a document. -/
def answers (f : Json → Option Json) (document : Json) (locations : List Location) (here : Location) :
    Option Json :=
  if here ∈ locations then (document.get? here).bind f else none

theorem answers_eq_some_iff {document w : Json} {locations : List Location} {here : Location} :
    answers f document locations here = some w ↔
      here ∈ locations ∧ ∃ node, document.get? here = some node ∧ f node = some w := by
  rw [answers, Option.ite_none_right_eq_some, Option.bind_eq_some_iff]

theorem answers_concat (document : Json) (front : List Location) (last : Location) :
    answers f document (front ++ [last]) =
      fun here => if here = last then (document.get? last).bind f else answers f document front here := by
  funext here
  by_cases same : here = last <;> simp [answers, same]

/-- Changes that come to a node before those below it, and leave nothing below it, are made all at once. Where no
location is below another one they may leave what they like. -/
theorem changeAll_eq_overlay (draft : Draft) {locations : List Location}
    (leaves : ∀ above ∈ locations, ∀ here ∈ locations, above.Above here → ∀ node w, f node = some w → w.IsLeaf)
    (ordered : locations.Pairwise fun first later => ¬ later <+: first) :
    (draft.changeAll f locations).document =
      overlay (answers f draft.document locations) draft.document := by
  induction locations using List.reverseRecOn with
  | nil => exact (overlay_of_none (fun _ => rfl) draft.document).symm
  | append_singleton front last ih =>
    obtain ⟨before, -, apart⟩ := List.pairwise_append.mp ordered
    have sofar := ih (fun above first here second => leaves above (List.mem_append_left _ first) here
      (List.mem_append_left _ second)) before
    have answered : ∀ above w, above.Above last → answers f draft.document front above = some w → w.IsLeaf := by
      intro above w below answer
      obtain ⟨listed, node, -, answer⟩ := answers_eq_some_iff.mp answer
      exact leaves above (List.mem_append_left _ listed) last List.mem_concat_self below node w answer
    have first : ∀ below, answers f draft.document front (last ++ below) = none := fun below =>
      if_neg fun met => apart _ met last (List.mem_singleton_self last) (List.prefix_append _ _)
    rw [answers_concat, Draft.changeAll, List.foldl_concat]
    exact change_overlay sofar answered first

/-! ### Overlaid documents and what a path names in them -/

theorem AlikeAt.symm {v v' : Json} {here : Location} (alike : AlikeAt v v' here) : AlikeAt v' v here :=
  Eq.symm alike

theorem alikeAt_overlay {new : Location → Option Json} {here : Location}
    (unhit : ∀ above, above <+: here → new above = none) (v : Json) : AlikeAt v (overlay new v) here := by
  have above : ∀ above, above.Above here → new above = none := fun above below =>
    unhit above (Location.prefix_iff.mpr (.inr below))
  rw [AlikeAt, get?_overlay above, Option.map_map]
  refine congrArg (Option.map · (v.get? here)) (funext fun node => (shell_overlay ?_ node).symm)
  rw [List.append_nil]
  exact unhit here (List.prefix_refl here)

/-- What is named stays named where nothing above it is replaced. -/
theorem Names.overlay {segments : List Segment} {v : Json} {location : Location}
    (names : Names segments v location) {new : Location → Option Json}
    (unhit : ∀ above, above.Above location → new above = none) :
    Names segments (v.overlay new) location :=
  names.congr fun _ higher => alikeAt_overlay (fun top reaches => unhit top (higher.of_prefix reaches)) v

theorem Names.of_overlay {segments : List Segment} {v : Json} {location : Location}
    {new : Location → Option Json} (leaves : ∀ here w, new here = some w → w.IsLeaf)
    (names : Names segments (v.overlay new) location) : Names segments v location := by
  have unhit : ∀ above, above.Above location → new above = none := by
    intro above below
    cases hit : new above with
    | none => rfl
    | some w =>
      obtain ⟨node, found⟩ := names.exists_get?
      have isHit : (new above).isSome := Option.isSome_of_mem hit
      rw [get?_overlay_below below (fun here w _ => leaves here w) isHit] at found
      cases found
  refine names.congr fun above higher => AlikeAt.symm (alikeAt_overlay (fun top reaches => ?_) v)
  exact unhit top (higher.of_prefix reaches)

/-! ### Members replaced -/

/-- The replacement is meant for the node: the path names it, as a member, with the expected text if there is
one. -/
structure Meant (path : Path) (expected : Option String) (document : Json) (here : Location) : Prop where
  named : here ∈ path.locate document
  isMember : here.isMember = true
  text : ∀ text, expected = some text → (document.get? here).map plainText = some text

/-- After the edit `w` is in place of the topmost nodes that it was meant for, and the nodes that are neither
such a node nor below one are as before. -/
structure Replaced (meant : Location → Prop) (w before after : Json) : Prop where
  topmost : ∀ here, meant here → (∀ above, above.Above here → ¬ meant above) → after.get? here = some w
  others : ∀ here, (∀ above, above <+: here → ¬ meant above) → AlikeAt before after here

/-- Either nothing is meant from the root down to a location, or something topmost is. -/
theorem exists_topmost (meant : Location → Prop) (here : Location) :
    (∀ above, above <+: here → ¬ meant above) ∨
      ∃ top, top <+: here ∧ meant top ∧ ∀ above, above.Above top → ¬ meant above := by
  induction here using List.reverseRecOn with
  | nil =>
    by_cases root : meant []
    · exact .inr ⟨[], List.prefix_refl _, root, fun _ above => absurd above Location.not_above_nil⟩
    · exact .inl fun above reaches => List.prefix_nil.mp reaches ▸ root
  | append_singleton front step ih =>
    rcases ih with none | ⟨top, reaches, meant, topmost⟩
    · by_cases last : meant (front ++ [step])
      · have topmost : ∀ above, above.Above (front ++ [step]) → ¬ meant above := fun above below =>
          none above (Location.above_concat.mp below)
        exact .inr ⟨_, List.prefix_refl _, last, topmost⟩
      · refine .inl fun above reaches => ?_
        rcases List.prefix_concat_iff.mp reaches with rfl | inFront
        · exact last
        · exact none above inFront
    · exact .inr ⟨top, reaches.trans (List.prefix_append _ _), meant, topmost⟩

/-- What is said of the document after a replacement determines it. -/
theorem Replaced.unique {meant : Location → Prop} {w before after after' : Json} (formed : after.WellFormed)
    (formed' : after'.WellFormed) (replaced : Replaced meant w before after)
    (replaced' : Replaced meant w before after') : after = after' := by
  refine eq_of_alikeAt formed formed' fun here => ?_
  rcases exists_topmost meant here with none | ⟨top, ⟨rest, rfl⟩, hit, topmost⟩
  · exact (replaced.others here none).symm.trans (replaced'.others here none)
  · rw [AlikeAt, get?_append, get?_append, replaced.topmost top hit topmost, replaced'.topmost top hit topmost]

theorem replacement_eq_some_iff {expected : Option String} {value : String} {node w : Json} :
    replacement expected value node = some w ↔
      (∀ text, expected = some text → node.plainText = text) ∧ w = .str value := by
  unfold replacement
  cases expected with
  | none => simp [eq_comm]
  | some text => simp [eq_comm]

/-- What a replacement puts in place of nodes of a document. -/
def replacements (path : Path) (expected : Option String) (value : String) (document : Json) :
    Location → Option Json :=
  answers (replacement expected value) document ((path.locate document).filter Location.isMember)

theorem replacements_eq_some_iff {path : Path} {expected : Option String} {value : String} {document : Json}
    (formed : document.WellFormed) {here : Location} {w : Json} :
    replacements path expected value document here = some w ↔
      Meant path expected document here ∧ w = .str value := by
  rw [replacements, answers_eq_some_iff, List.mem_filter]
  constructor
  · rintro ⟨⟨named, isMember⟩, node, found, answer⟩
    obtain ⟨same, rfl⟩ := replacement_eq_some_iff.mp answer
    exact ⟨⟨named, isMember, fun text wanted => by rw [found, Option.map_some, same text wanted]⟩, rfl⟩
  · rintro ⟨⟨named, isMember, same⟩, rfl⟩
    obtain ⟨node, found⟩ := ((mem_locate formed).mp named).exists_get?
    refine ⟨⟨named, isMember⟩, node, found, replacement_eq_some_iff.mpr ⟨fun text wanted => ?_, rfl⟩⟩
    have texts := same text wanted
    rw [found] at texts
    exact Option.some.inj texts

theorem replacements_eq_none_iff {path : Path} {expected : Option String} {value : String} {document : Json}
    (formed : document.WellFormed) {here : Location} :
    replacements path expected value document here = none ↔ ¬ Meant path expected document here := by
  rw [Option.eq_none_iff_forall_ne_some]
  constructor
  · intro none meant
    exact none _ ((replacements_eq_some_iff formed).mpr ⟨meant, rfl⟩)
  · intro unmeant w answer
    exact unmeant ((replacements_eq_some_iff formed).mp answer).1

theorem document_replaceMembers (path : Path) (expected : Option String) (value : String) {document : Json}
    (formed : document.WellFormed) :
    (replaceMembers expected value (path.locate document) document).document =
      document.overlay (replacements path expected value document) := by
  refine changeAll_eq_overlay (.start document) (fun _ _ _ _ _ node w answer => ?_)
    ((pairwise_locate path formed).filter _)
  obtain ⟨-, rfl⟩ := replacement_eq_some_iff.mp answer
  exact isLeaf_str value

theorem replaced_overlay (path : Path) (expected : Option String) (value : String) {document : Json}
    (formed : document.WellFormed) :
    Replaced (Meant path expected document) (.str value) document
      (document.overlay (replacements path expected value document)) := by
  constructor
  · intro here meant topmost
    obtain ⟨node, found⟩ := ((mem_locate formed).mp meant.named).exists_get?
    have unhit : ∀ above, above.Above here → replacements path expected value document above = none :=
      fun above below => (replacements_eq_none_iff formed).mpr (topmost above below)
    have hit : replacements path expected value document here = some (.str value) :=
      (replacements_eq_some_iff formed).mpr ⟨meant, rfl⟩
    rw [get?_overlay unhit, found, Option.map_some, overlay_of_some]
    rw [List.append_nil, hit]
  · intro here unmeant
    refine alikeAt_overlay (fun above reaches => ?_) document
    exact (replacements_eq_none_iff formed).mpr (unmeant above reaches)

/-! ### Replacing again -/

theorem isLeaf_of_replacements {path : Path} {expected : Option String} {value : String} {document : Json}
    (formed : document.WellFormed) (here : Location) (w : Json)
    (answer : replacements path expected value document here = some w) : w.IsLeaf := by
  obtain ⟨-, rfl⟩ := (replacements_eq_some_iff formed).mp answer
  exact isLeaf_str value

/-- The first location that a path names is still named after a replacement: none above it is listed. -/
theorem locate_overlay_ne_nil {path : Path} {expected : Option String} {value : String} {document : Json}
    (formed : document.WellFormed)
    (formed' : (document.overlay (replacements path expected value document)).WellFormed)
    (named : path.locate document ≠ []) :
    path.locate (document.overlay (replacements path expected value document)) ≠ [] := by
  have ordered := pairwise_locate path formed
  obtain ⟨first, rest, listed⟩ := List.exists_cons_of_ne_nil named
  have unhit : ∀ above, above.Above first → replacements path expected value document above = none := by
    intro above below
    refine (replacements_eq_none_iff formed).mpr fun meant => ?_
    have present := meant.named
    rw [listed] at present ordered
    rcases List.mem_cons.mp present with rfl | later
    · exact Location.not_above_of_length_eq rfl below
    · exact (List.pairwise_cons.mp ordered).1 above later (Location.prefix_iff.mpr (.inr below))
  have names : Names path.segments document first := (mem_locate formed).mp (listed ▸ List.mem_cons_self)
  exact List.ne_nil_of_mem ((mem_locate formed').mpr (names.overlay unhit))

theorem overlay_replacements_again {path : Path} {value : String} {document : Json}
    (formed : document.WellFormed)
    (formed' : (document.overlay (replacements path none value document)).WellFormed) :
    let after := document.overlay (replacements path none value document)
    after.overlay (replacements path none value after) = after := by
  intro after
  refine (overlay_overlay (settles_of_leaves (isLeaf_of_replacements formed)) document).trans ?_
  refine congrArg (overlay · document) (funext fun here => ?_)
  cases again : replacements path none value after here with
  | none => rfl
  | some w =>
    -- What is named afterwards was named before, and then it was replaced by the same string.
    obtain ⟨meant, rfl⟩ := (replacements_eq_some_iff formed').mp again
    have names : Names path.segments document here :=
      ((mem_locate formed').mp meant.named).of_overlay (isLeaf_of_replacements formed)
    have before : Meant path none document here := ⟨(mem_locate formed).mpr names, meant.isMember, nofun⟩
    exact ((replacements_eq_some_iff formed).mpr ⟨before, rfl⟩).symm

theorem document_replaceMembers_again {path : Path} {value : String} {document : Json} (formed : document.WellFormed)
    (formed' : (replaceMembers none value (path.locate document) document).document.WellFormed) :
    let draft := replaceMembers none value (path.locate document) document
    (replaceMembers none value (path.locate draft.document) draft.document).document = draft.document := by
  intro draft
  have whole : draft.document = document.overlay (replacements path none value document) :=
    document_replaceMembers path none value formed
  have again := document_replaceMembers path none value formed'
  have formed'' : draft.document.WellFormed := formed'
  rw [again]
  rw [whole] at formed'' ⊢
  exact overlay_replacements_again formed formed''

theorem finish_again {path : Path} {value : String} {document : Json} (formed : document.WellFormed)
    (formed' : (replaceMembers none value (path.locate document) document).document.WellFormed) (text : String) :
    let draft := replaceMembers none value (path.locate document) document
    (replaceMembers none value (path.locate draft.document) draft.document).finish (draft.finish text) =
      draft.finish text := by
  intro draft
  cases changed : draft.changed with
  | false =>
    have same : draft = .start document := unchanged_changeAll _ _ _ changed
    have itself : replaceMembers none value (path.locate draft.document) draft.document = draft := by
      rw [same]
      exact same
    rw [itself, Draft.finish, Draft.finish, changed]
    rfl
  | true =>
    have rendered : draft.finish text = draft.document.render := by rw [Draft.finish, changed]; rfl
    rw [rendered, Draft.finish, document_replaceMembers_again formed formed', ite_self]

/-! ### Texts with members replaced -/

section Texts

variable {text source : String} {document : Json} {path : Path}

theorem draft_replace (read : Path.parse source = .ok path) (named : path.locate document ≠ [])
    (expected : Option String) (value : String) :
    (Edit.replace source expected value).draft document =
      .ok (replaceMembers expected value (path.locate document) document) := by
  rw [Edit.draft, located_eq_ok_iff.mpr ⟨path, read, rfl, named⟩]
  rfl

/-- A replacement along a path that names something succeeds. It replaces all the members that it is meant for
at once, as the document was before; where there is none it leaves the text. Without an expected text it leaves the
document as it is the second time, and the text as well if the numbers in it are read back. -/
theorem replaces_all_at_once (parsed : parse text = .ok document) (read : Path.parse source = .ok path)
    (named : path.locate document ≠ []) (expected : Option String) (value : String) :
    let edit := Edit.replace source expected value
    ∃ draft, edit.Succeeds text document draft ∧
      Replaced (Meant path expected document) (.str value) document draft.document ∧
      ((∀ here, ¬ Meant path expected document here) → draft.finish text = text) ∧
      (expected = none →
        (∃ again, edit.draft draft.document = .ok again ∧ again.document = draft.document) ∧
          (draft.document.NumbersReadBack → edit.attempt (draft.finish text) = .ok (draft.finish text))) := by
  intro edit
  have legible := legible_of_parse parsed
  have formed := legible.formed
  have whole := document_replaceMembers path expected value formed
  have drafted := draft_replace read named expected value
  have formed' := (legible_draft_of_flat rfl drafted legible).formed
  have succeeds := succeeds_of_drafted rfl parsed drafted
  refine ⟨_, succeeds, whole ▸ replaced_overlay path expected value formed, ?_, ?_⟩
  · intro unmeant
    have same : replaceMembers expected value (path.locate document) document = .start document := by
      refine changeAll_of_none fun here listed => ?_
      have none : replacements path expected value document here = none :=
        (replacements_eq_none_iff formed).mpr (unmeant here)
      rwa [replacements, answers, if_pos listed] at none
    rw [same]
    rfl
  · rintro rfl
    have namedAgain : path.locate (replaceMembers none value (path.locate document) document).document ≠ [] := by
      rw [whole] at formed' ⊢
      exact locate_overlay_ne_nil formed formed' named
    have draftedAgain := draft_replace read namedAgain none value
    refine ⟨⟨_, draftedAgain, document_replaceMembers_again formed formed'⟩, fun numbers => ?_⟩
    rw [(succeeds_of_drafted rfl (succeeds.read numbers) draftedAgain).attempted, finish_again formed formed']

end Texts

/-- Were the inner member replaced first, the outer one would then have the expected text. -/
theorem inner_replacement_keeps_outer :
    let expected := "\x7b\"a\":\"v\"\x7d"
    let document : Json := .obj [("a", .obj [("a", .str expected)])]
    let edit := Edit.replace "$..a" (some expected) "v"
    ∃ draft, edit.Succeeds document.render document draft ∧
      draft.document.get? [.key "a", .key "a"] = some (.str "v") ∧ AlikeAt document draft.document [.key "a"] := by
  intro expected document edit
  have legible : document.Legible 127 :=
    Legible.obj.mpr ⟨List.pairwise_singleton _ _, by
      simpa using Legible.obj.mpr ⟨List.pairwise_singleton _ _, by simpa using Legible.str expected⟩⟩
  let path : Path := ⟨"$..a", [⟨true, [.name "a"]⟩]⟩
  have read : Path.parse "$..a" = .ok path := rfl
  have leads : Segment.Leads ⟨true, [.name "a"]⟩ document [.key "a", .key "a"] :=
    ⟨[.key "a"], .key "a", _, rfl, nofun, rfl, .name "a", List.mem_singleton_self _, .name rfl⟩
  have inner : [.key "a", .key "a"] ∈ path.locate document :=
    (mem_locate legible.formed).mpr (.cons leads rfl .nil)
  have outer : ∀ above, above <+: [Step.key "a"] → ¬ Meant path (some expected) document above := by
    intro above reaches meant
    rcases List.prefix_cons_iff.mp reaches with rfl | ⟨rest, rfl, last⟩
    · exact Bool.noConfusion meant.isMember
    · rw [List.prefix_nil.mp last] at meant
      exact absurd (meant.text expected rfl) (by decide +kernel)
  obtain ⟨draft, succeeds, replaced, -⟩ :=
    replaces_all_at_once (legible.parse_render_self rfl) read (List.ne_nil_of_mem inner) (some expected) "v"
  refine ⟨draft, succeeds, replaced.topmost _ ⟨inner, rfl, ?_⟩ ?_, replaced.others _ outer⟩
  · intro text wanted
    cases Option.some.inj wanted
    rfl
  · exact fun above below => outer above (Location.above_concat.mp below)

end Relay.Json
