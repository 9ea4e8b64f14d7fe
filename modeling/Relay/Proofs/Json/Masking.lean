import Relay.Proofs.Json.Locating
import Relay.Proofs.Json.Replacing
import Relay.Proofs.Json.Reread
import Relay.Proofs.Text.Mask

/-!
# Members masked along several paths

Masking goes along one path after another, each on the document that the earlier ones left. It never changes what
a path names, and a mask is its own mask, so that all the members that any of the paths names are masked once, as
the document was before: `document_foldl_maskPath`. What comes out depends on the set of the paths alone.
-/

namespace Relay.Json

/-! ### Masks of nodes -/

theorem maskedNode_eq_some_iff {node w : Json} :
    maskedNode node = some w ↔
      ∃ text, scalarText node = some text ∧ Text.isBlankText text = false ∧ w = .str (Text.mask text) ∧
        w ≠ node := by
  unfold maskedNode
  cases scalarText node with
  | none => exact ⟨nofun, nofun⟩
  | some text =>
    dsimp only
    constructor
    · intro answer
      split at answer
      · cases answer
      · rename_i shown
        split at answer
        · cases answer
        · rename_i changed
          cases answer
          refine ⟨text, rfl, Bool.eq_false_of_not_eq_true shown, rfl, fun same => changed ?_⟩
          exact beq_iff_eq.mpr same
    · rintro ⟨text', same, shown, rfl, changed⟩
      cases same
      have other : ¬ (Json.str (Text.mask text) == node) = true := fun same => changed (beq_iff_eq.mp same)
      rw [if_neg (Bool.not_eq_true _ ▸ shown), if_neg other]

theorem isLeaf_of_scalarText {node : Json} {text : String} (scalar : scalarText node = some text) :
    node.IsLeaf := by
  intro step
  cases node with
  | arr | obj => cases scalar
  | _ => cases step <;> rfl

theorem maskedNode_mask {node w : Json} (masked : maskedNode node = some w) : maskedNode w = none := by
  obtain ⟨text, -, shown, rfl, -⟩ := maskedNode_eq_some_iff.mp masked
  rw [Option.eq_none_iff_forall_ne_some]
  intro again answer
  obtain ⟨text', same, -, rfl, changed⟩ := maskedNode_eq_some_iff.mp answer
  cases same
  exact changed (congrArg Json.str (Text.mask_mask text))

theorem shown_number (n : Number) : Text.isBlankText n.text = false := by
  obtain ⟨c, present, digit⟩ := n.exists_digit
  have shown : Text.isBlank c = false := by
    refine Bool.eq_false_of_not_eq_true fun blank => ?_
    rw [Text.not_digit_of_isBlank blank] at digit
    cases digit
  simp only [Text.isBlankText, Number.text, String.toList_ofList, List.all_eq_false]
  exact ⟨c, present, by simp [shown]⟩

/-- A node is masked just when it is after it has been read again: the text of a number always shows. -/
theorem isSome_maskedNode_reread (node : Json) : (maskedNode node.reread).isSome = (maskedNode node).isSome := by
  have number : ∀ n, (maskedNode (.num n)).isSome = true := fun n =>
    Option.isSome_iff_exists.mpr ⟨_, maskedNode_eq_some_iff.mpr ⟨n.text, rfl, shown_number n, rfl, nofun⟩⟩
  cases node with
  | num n => exact (number _).trans (number n).symm
  | _ => rfl

theorem maskedNode_shell (v : Json) : maskedNode v.shell = maskedNode v := by
  cases v <;> rfl

/-! ### Masks overlaid -/

/-- What is put in place of nodes of the document are their masks. -/
def Masks (new : Location → Option Json) (document : Json) : Prop :=
  ∀ here w, new here = some w → (document.get? here).bind maskedNode = some w

section Overlaid

variable {new : Location → Option Json} {document : Json}

theorem Masks.isLeaf (masks : Masks new document) (here : Location) (w : Json) (hit : new here = some w) :
    w.IsLeaf := by
  obtain ⟨node, -, answer⟩ := Option.bind_eq_some_iff.mp (masks here w hit)
  obtain ⟨text, -, -, rfl, -⟩ := maskedNode_eq_some_iff.mp answer
  exact isLeaf_str _

/-- Below a node that gets a mask there is nothing. -/
theorem Masks.get?_below (masks : Masks new document) {above here : Location} (below : above.Above here)
    {w : Json} (hit : new above = some w) : document.get? here = none := by
  obtain ⟨node, found, answer⟩ := Option.bind_eq_some_iff.mp (masks above w hit)
  obtain ⟨text, scalar, -⟩ := maskedNode_eq_some_iff.mp answer
  obtain ⟨step, rest, rfl⟩ := below
  rw [get?_append, found, Option.bind_some, get?, isLeaf_of_scalarText scalar]
  rfl

theorem Masks.unhit_above (masks : Masks new document) {here : Location} {node : Json}
    (found : document.get? here = some node) : ∀ above, above.Above here → new above = none := by
  intro above below
  cases hit : new above with
  | none => rfl
  | some w =>
    rw [masks.get?_below below hit] at found
    cases found

theorem Masks.get?_overlay (masks : Masks new document) (here : Location) :
    (overlay new document).get? here =
      (document.get? here).map (overlay fun below => new (here ++ below)) := by
  cases found : document.get? here with
  | some node => rw [Json.get?_overlay (masks.unhit_above found), found]
  | none =>
    by_cases unhit : ∀ above, above.Above here → new above = none
    · rw [Json.get?_overlay unhit, found]
    · simp only [not_forall] at unhit
      obtain ⟨above, below, hit⟩ := unhit
      have isHit := Option.isSome_iff_ne_none.mpr hit
      exact get?_overlay_below below (fun here w _ => masks.isLeaf here w) isHit document

/-- Where there is a mask already there is nothing more to mask, and all else is as it was. -/
theorem Masks.masked_overlay (masks : Masks new document) (here : Location) :
    ((overlay new document).get? here).bind maskedNode =
      if (new here).isSome then none else (document.get? here).bind maskedNode := by
  rw [masks.get?_overlay]
  cases found : document.get? here with
  | none => simp
  | some node =>
    rw [Option.map_some, Option.bind_some, Option.bind_some]
    cases hit : new here with
    | some w =>
      have answer := masks here w hit
      rw [found, Option.bind_some] at answer
      have itself : new (here ++ []) = some w := by rw [List.append_nil, hit]
      rw [overlay_of_some itself]
      exact maskedNode_mask answer
    | none =>
      have unhit : new (here ++ []) = none := by rw [List.append_nil, hit]
      rw [← maskedNode_shell, shell_overlay unhit, maskedNode_shell]
      rfl

theorem Masks.names_iff (masks : Masks new document) {segments : List Segment} {here : Location} :
    Names segments (overlay new document) here ↔ Names segments document here := by
  constructor
  · exact Names.of_overlay masks.isLeaf
  · intro names
    obtain ⟨node, found⟩ := names.exists_get?
    exact names.overlay (masks.unhit_above found)

theorem Masks.mem_locate_iff (masks : Masks new document) (formed : document.WellFormed)
    (formed' : (overlay new document).WellFormed) (path : Path) {here : Location} :
    here ∈ path.locate (overlay new document) ↔ here ∈ path.locate document := by
  rw [mem_locate formed, mem_locate formed', masks.names_iff]

end Overlaid

/-! ### One path after another -/

/-- The masks of the members that any of the paths names. -/
def maskings (paths : List Path) (document : Json) : Location → Option Json :=
  answers maskedNode document (paths.flatMap fun path => path.members document)

theorem maskings_eq_some_iff {paths : List Path} {document w : Json} {here : Location} :
    maskings paths document here = some w ↔
      (∃ path ∈ paths, here ∈ path.members document) ∧ (document.get? here).bind maskedNode = some w := by
  rw [maskings, answers, Option.ite_none_right_eq_some, List.mem_flatMap]

theorem masks_maskings (paths : List Path) (document : Json) : Masks (maskings paths document) document :=
  fun _ _ hit => (maskings_eq_some_iff.mp hit).2

theorem maskings_congr {paths paths' : List Path} (same : ∀ path, path ∈ paths ↔ path ∈ paths')
    (document : Json) : maskings paths document = maskings paths' document := by
  funext here
  refine Option.ext fun w => ?_
  simp only [maskings_eq_some_iff, same]

/-- Masking along one more path joins its masks to those of the earlier paths. -/
theorem overlay_maskings_concat (front : List Path) (last : Path) {document : Json}
    (formed : document.WellFormed) (formed' : (overlay (maskings front document) document).WellFormed) :
    let before := overlay (maskings front document) document
    overlay (answers maskedNode before (last.members before)) before =
      overlay (maskings (front ++ [last]) document) document := by
  intro before
  have masks := masks_maskings front document
  refine (overlay_overlay (settles_of_leaves masks.isLeaf) document).trans (congrArg (overlay · document) (funext fun here => ?_))
  have members : here ∈ last.members before ↔ here ∈ last.members document := by
    rw [Path.mem_members, Path.mem_members, masks.mem_locate_iff formed formed']
  have again : (before.get? here).bind maskedNode =
      if (maskings front document here).isSome then none else (document.get? here).bind maskedNode :=
    masks.masked_overlay here
  obtain ⟨mask, masked⟩ : ∃ mask, (document.get? here).bind maskedNode = mask := ⟨_, rfl⟩
  simp only [answers, members, again]
  simp only [maskings, answers, masked, List.flatMap_append, List.flatMap_singleton, List.mem_append]
  by_cases earlier : here ∈ front.flatMap fun path => path.members document
  · cases mask <;> simp [earlier]
  · simp [earlier]

theorem document_maskPath (draft : Draft) (path : Path) (formed : draft.document.WellFormed) :
    (maskPath draft path).document =
      overlay (answers maskedNode draft.document (path.members draft.document)) draft.document := by
  refine changeAll_eq_overlay draft (fun _ _ _ _ _ node w answer => ?_) ((pairwise_locate path formed).filter _)
  obtain ⟨text, -, -, rfl, -⟩ := maskedNode_eq_some_iff.mp answer
  exact isLeaf_str _

theorem legible_foldl_maskPath {document : Json} {depth : Nat} (legible : document.Legible depth)
    (paths : List Path) : (paths.foldl maskPath (.start document)).document.Legible depth := by
  induction paths using List.reverseRecOn with
  | nil => exact legible
  | append_singleton front last ih =>
    rw [List.foldl_concat]
    exact legible_changeAll deepens_maskedNode _ ih

/-- Masking along all the paths is masking at once what any of them names in the first document. -/
theorem document_foldl_maskPath {document : Json} {depth : Nat} (legible : document.Legible depth)
    (paths : List Path) :
    (paths.foldl maskPath (.start document)).document = overlay (maskings paths document) document := by
  induction paths using List.reverseRecOn with
  | nil => exact (overlay_of_none (fun _ => rfl) document).symm
  | append_singleton front last ih =>
    have formed' := (legible_foldl_maskPath legible front).formed
    rw [List.foldl_concat, document_maskPath _ last formed']
    rw [ih] at formed' ⊢
    exact overlay_maskings_concat front last legible.formed formed'

theorem foldl_maskPath_of_none {document : Json} {paths : List Path}
    (none : ∀ here, maskings paths document here = none) :
    paths.foldl maskPath (.start document) = .start document := by
  have unmasked : ∀ path ∈ paths, ∀ here ∈ path.members document,
      (document.get? here).bind maskedNode = .none := by
    intro path listed here member
    have unhit := none here
    rwa [maskings, answers, if_pos (List.mem_flatMap.mpr ⟨path, listed, member⟩)] at unhit
  clear none
  induction paths with
  | nil => rfl
  | cons path rest ih =>
    obtain ⟨first, later⟩ := List.forall_mem_cons.mp unmasked
    have same : maskPath (.start document) path = .start document := changeAll_of_none first
    rw [List.foldl_cons, same]
    exact ih later

/-- A draft of masks has changed just when its document has. -/
theorem changed_foldl_maskPath_iff {document : Json} {depth : Nat} (legible : document.Legible depth)
    (paths : List Path) :
    (paths.foldl maskPath (.start document)).changed = true ↔
      (paths.foldl maskPath (.start document)).document ≠ document := by
  constructor
  · intro changed same
    have masks := masks_maskings paths document
    have none : ∀ here, maskings paths document here = .none := by
      intro here
      have again := masks.masked_overlay here
      rw [← document_foldl_maskPath legible, same] at again
      cases hit : maskings paths document here with
      | none => rfl
      | some w =>
        rw [masks here w hit, hit] at again
        cases again
    rw [foldl_maskPath_of_none none] at changed
    cases changed
  · intro other
    refine Bool.eq_true_of_not_eq_false fun unchanged => other ?_
    have each : ∀ draft path, (maskPath draft path).changed = false → maskPath draft path = draft :=
      fun draft path => unchanged_changeAll maskedNode _ draft
    rw [unchanged_foldl each paths _ unchanged]
    rfl

theorem Draft.ext {a b : Draft} (documents : a.document = b.document) (changes : a.changed = b.changed) :
    a = b := by
  cases a
  cases b
  rw [Draft.mk.injEq]
  exact ⟨documents, changes⟩

/-- The outcome depends neither on the order of the paths nor on how often each is listed. -/
theorem foldl_maskPath_congr {document : Json} {depth : Nat} (legible : document.Legible depth)
    {paths paths' : List Path} (same : ∀ path, path ∈ paths ↔ path ∈ paths') :
    paths.foldl maskPath (.start document) = paths'.foldl maskPath (.start document) := by
  have documents : (paths.foldl maskPath (.start document)).document =
      (paths'.foldl maskPath (.start document)).document := by
    rw [document_foldl_maskPath legible, document_foldl_maskPath legible, maskings_congr same]
  have changes : (paths.foldl maskPath (.start document)).changed =
      (paths'.foldl maskPath (.start document)).changed := by
    rw [Bool.eq_iff_iff, changed_foldl_maskPath_iff legible, changed_foldl_maskPath_iff legible, documents]
  exact Draft.ext documents changes

/-! ### Lists of paths as texts -/

/-- The text is a path. -/
def ReadsAsPath (source : String) : Prop := ∃ path, Path.parse source = .ok path

/-- One of the texts spells the path. -/
def Spelled (sources : List String) (path : Path) : Prop := ∃ source ∈ sources, Path.parse source = .ok path

theorem exists_spelled {sources : List String} (readable : ∀ source ∈ sources, ReadsAsPath source) :
    ∃ paths : List Path, (∀ path, path ∈ paths ↔ Spelled sources path) ∧
      ∀ draft, maskPaths draft sources = .ok (paths.foldl maskPath draft) := by
  induction sources with
  | nil => exact ⟨[], fun path => by simp [Spelled], fun draft => rfl⟩
  | cons source rest ih =>
    obtain ⟨⟨first, read⟩, later⟩ := List.forall_mem_cons.mp readable
    obtain ⟨paths, spelled, masked⟩ := ih later
    refine ⟨first :: paths, fun path => ?_, fun draft => ?_⟩
    · rw [List.mem_cons, spelled]
      simp only [Spelled, List.exists_mem_cons_iff, read, Except.ok.injEq, eq_comm]
    · rw [maskPaths, readPath_of_parse read]
      exact masked (maskPath draft first)

/-- The first text that is not a path ends the masking, whatever was masked before. -/
theorem maskPaths_of_malformed {front back : List String} {source : String} {fault : PathFault}
    (readable : ∀ earlier ∈ front, ReadsAsPath earlier) (malformed : Path.parse source = .error fault)
    (draft : Draft) : maskPaths draft (front ++ source :: back) = .error (.badPath source fault) := by
  induction front generalizing draft with
  | nil =>
    rw [List.nil_append, maskPaths, readPath, malformed]
    rfl
  | cons first rest ih =>
    obtain ⟨⟨path, read⟩, later⟩ := List.forall_mem_cons.mp readable
    rw [List.cons_append, maskPaths, readPath_of_parse read]
    exact ih later (maskPath draft path)

theorem readable_or_malformed (sources : List String) :
    (∀ source ∈ sources, ReadsAsPath source) ∨
      ∃ front source back fault, sources = front ++ source :: back ∧
        (∀ earlier ∈ front, ReadsAsPath earlier) ∧ Path.parse source = .error fault := by
  induction sources with
  | nil => exact .inl nofun
  | cons first rest ih =>
    cases read : Path.parse first with
    | error fault => exact .inr ⟨[], first, rest, fault, rfl, nofun, read⟩
    | ok path =>
      rcases ih with readable | ⟨front, source, back, fault, rfl, readable, malformed⟩
      · exact .inl (List.forall_mem_cons.mpr ⟨⟨path, read⟩, readable⟩)
      · exact .inr ⟨first :: front, source, back, fault, rfl,
          List.forall_mem_cons.mpr ⟨⟨path, read⟩, readable⟩, malformed⟩

/-! ### What is masked -/

/-- One of the paths names the node as a member, and it is a scalar of this text, which is not blank. -/
structure Exposed (sources : List String) (document : Json) (here : Location) (text : String) : Prop where
  named : ∃ path, Spelled sources path ∧ here ∈ path.locate document
  isMember : here.isMember = true
  scalar : (document.get? here).bind scalarText = some text
  shown : Text.isBlankText text = false

/-- Masks stand in place of the exposed members, and all other nodes are as before. -/
structure Masked (sources : List String) (before after : Json) : Prop where
  masked : ∀ here text, Exposed sources before here text → after.get? here = some (.str (Text.mask text))
  others : ∀ here, (∀ text, ¬ Exposed sources before here text) → AlikeAt before after here

theorem overlay_of_scalarText {new : Location → Option Json} {node : Json} {text : String}
    (scalar : scalarText node = some text) : overlay new node = (new []).getD node :=
  overlay_of_isLeaf (isLeaf_of_scalarText scalar)

theorem masked_overlay_maskings {sources : List String} {paths : List Path}
    (spelled : ∀ path, path ∈ paths ↔ Spelled sources path) (document : Json) :
    Masked sources document (overlay (maskings paths document) document) := by
  have masks := masks_maskings paths document
  constructor
  · intro here text exposed
    obtain ⟨path, fromSources, named⟩ := exposed.named
    obtain ⟨node, found, scalar⟩ := Option.bind_eq_some_iff.mp exposed.scalar
    have member : here ∈ path.members document := Path.mem_members.mpr ⟨named, exposed.isMember⟩
    rw [masks.get?_overlay, found, Option.map_some, overlay_of_scalarText scalar, List.append_nil]
    cases hit : maskings paths document here with
    | some w =>
      have answer := masks here w hit
      rw [found, Option.bind_some] at answer
      obtain ⟨text', same, -, rfl, -⟩ := maskedNode_eq_some_iff.mp answer
      cases scalar.symm.trans same
      rfl
    | none =>
      -- The node is its own mask.
      refine congrArg some (Classical.byContradiction fun changed => ?_)
      have answer : maskedNode node = some (.str (Text.mask text)) :=
        maskedNode_eq_some_iff.mpr ⟨text, scalar, exposed.shown, rfl, fun same => changed same.symm⟩
      have hit' : maskings paths document here = some (.str (Text.mask text)) :=
        maskings_eq_some_iff.mpr ⟨⟨path, (spelled path).mpr fromSources, member⟩, by rw [found]; exact answer⟩
      rw [hit] at hit'
      cases hit'
  · intro here hidden
    have unhit : maskings paths document here = none := by
      rw [Option.eq_none_iff_forall_ne_some]
      intro w hit
      obtain ⟨⟨path, listed, member⟩, answer⟩ := maskings_eq_some_iff.mp hit
      obtain ⟨node, found, answer⟩ := Option.bind_eq_some_iff.mp answer
      obtain ⟨text, scalar, shown, -⟩ := maskedNode_eq_some_iff.mp answer
      obtain ⟨named, isMember⟩ := Path.mem_members.mp member
      exact hidden text ⟨⟨path, (spelled path).mp listed, named⟩, isMember, by rw [found]; exact scalar, shown⟩
    rw [AlikeAt, masks.get?_overlay, Option.map_map]
    refine congrArg (Option.map · (document.get? here)) (funext fun node => (shell_overlay ?_ node).symm)
    rw [List.append_nil]
    exact unhit

/-- What is said of the document after masking determines it. -/
theorem Masked.unique {sources : List String} {before after after' : Json} (formed : after.WellFormed)
    (formed' : after'.WellFormed) (masked : Masked sources before after) (masked' : Masked sources before after') :
    after = after' := by
  refine eq_of_alikeAt formed formed' fun here => ?_
  by_cases exposed : ∃ text, Exposed sources before here text
  · obtain ⟨text, exposed⟩ := exposed
    rw [AlikeAt, masked.masked here text exposed, masked'.masked here text exposed]
  · have hidden : ∀ text, ¬ Exposed sources before here text := fun text here => exposed ⟨text, here⟩
    exact (masked.others here hidden).symm.trans (masked'.others here hidden)

/-! ### Texts with members masked -/

section Texts

variable {text : String} {document : Json} {sources : List String}

theorem succeeds_mask_of_readable (parsed : parse text = .ok document)
    (readable : ∀ source ∈ sources, ReadsAsPath source) :
    ∃ paths : List Path, (∀ path, path ∈ paths ↔ Spelled sources path) ∧
      (Edit.mask sources).Succeeds text document (paths.foldl maskPath (.start document)) := by
  obtain ⟨paths, spelled, masked⟩ := exists_spelled readable
  exact ⟨paths, spelled, succeeds_of_drafted rfl parsed (masked (.start document))⟩

theorem attempt_mask_of_malformed (parsed : parse text = .ok document) {front back : List String}
    {source : String} {fault : PathFault} (readable : ∀ earlier ∈ front, ReadsAsPath earlier)
    (malformed : Path.parse source = .error fault) :
    (Edit.mask (front ++ source :: back)).attempt text = .error (.badPath source fault) :=
  attempt_of_not_drafted parsed (maskPaths_of_malformed readable malformed (.start document))

theorem readable_of_attempt_mask {output : String} (done : (Edit.mask sources).attempt text = .ok output) :
    (∃ document, parse text = .ok document) ∧ ∀ source ∈ sources, ReadsAsPath source := by
  obtain ⟨document, -, parsed, -, -⟩ := attempt_eq_ok.mp done
  refine ⟨⟨document, parsed⟩, ?_⟩
  rcases readable_or_malformed sources with readable | ⟨front, source, back, fault, rfl, readable, malformed⟩
  · exact readable
  · rw [attempt_mask_of_malformed parsed readable malformed] at done
    cases done

theorem attempt_mask_congr {sources' : List String} (same : ∀ source, source ∈ sources' ↔ source ∈ sources)
    {output : String} (done : (Edit.mask sources).attempt text = .ok output) :
    (Edit.mask sources').attempt text = .ok output := by
  obtain ⟨⟨document, parsed⟩, readable⟩ := readable_of_attempt_mask done
  have readable' : ∀ source ∈ sources', ReadsAsPath source := fun source listed =>
    readable source ((same source).mp listed)
  obtain ⟨paths, spelled, succeeds⟩ := succeeds_mask_of_readable parsed readable
  obtain ⟨paths', spelled', succeeds'⟩ := succeeds_mask_of_readable parsed readable'
  have members : ∀ path, path ∈ paths' ↔ path ∈ paths := by
    intro path
    rw [spelled, spelled']
    simp only [Spelled, same]
  rw [← done, succeeds.attempted, succeeds'.attempted, foldl_maskPath_congr (legible_of_parse parsed) members]

theorem apply_mask_congr {sources' : List String} (same : ∀ source, source ∈ sources' ↔ source ∈ sources)
    (text : String) : (Edit.mask sources').apply text = (Edit.mask sources).apply text := by
  cases done : (Edit.mask sources).attempt text with
  | ok output => rw [apply_of_attempt_ok done, apply_of_attempt_ok (attempt_mask_congr same done)]
  | error error =>
    rw [apply_of_attempt_error done]
    cases done' : (Edit.mask sources').attempt text with
    | ok output =>
      rw [attempt_mask_congr (fun source => (same source).symm) done'] at done
      cases done
    | error error' => exact apply_of_attempt_error done'

/-- In a masked document there is nothing left to mask. -/
theorem maskings_overlay {paths : List Path} (formed : document.WellFormed)
    (formed' : (overlay (maskings paths document) document).WellFormed) (here : Location) :
    maskings paths (overlay (maskings paths document) document) here = none := by
  have masks := masks_maskings paths document
  rw [Option.eq_none_iff_forall_ne_some]
  intro w hit
  obtain ⟨⟨path, listed, member⟩, answer⟩ := maskings_eq_some_iff.mp hit
  have member : here ∈ path.members document := by
    rw [Path.mem_members] at member ⊢
    exact member.imp_left (masks.mem_locate_iff formed formed' path).mp
  rw [masks.masked_overlay] at answer
  split at answer
  · cases answer
  · rename_i unhit
    have before := maskings_eq_some_iff.mpr ⟨⟨path, listed, member⟩, answer⟩
    rw [before] at unhit
    exact unhit rfl

/-- Nor is there in the document that is read of its text. -/
theorem maskings_reread {paths : List Path} (formed : document.WellFormed)
    (none : ∀ here, maskings paths document here = none) (here : Location) :
    maskings paths document.reread here = .none := by
  rw [Option.eq_none_iff_forall_ne_some]
  intro w hit
  obtain ⟨⟨path, listed, member⟩, answer⟩ := maskings_eq_some_iff.mp hit
  rw [Path.mem_members, mem_locate_reread formed, ← Path.mem_members] at member
  rw [get?_reread, Option.bind_map] at answer
  obtain ⟨node, found, answer⟩ := Option.bind_eq_some_iff.mp answer
  have masked : (maskedNode node).isSome := by
    rw [← isSome_maskedNode_reread]
    exact Option.isSome_of_mem answer
  obtain ⟨w', before⟩ := Option.isSome_iff_exists.mp masked
  have hit' := maskings_eq_some_iff.mpr ⟨⟨path, listed, member⟩, Option.bind_eq_some_iff.mpr ⟨node, found, before⟩⟩
  rw [none here] at hit'
  cases hit'

theorem apply_mask_mask (sources : List String) (text : String) :
    (Edit.mask sources).apply ((Edit.mask sources).apply text) = (Edit.mask sources).apply text := by
  cases done : (Edit.mask sources).attempt text with
  | error error => rw [apply_of_attempt_error done, apply_of_attempt_error done]
  | ok output =>
    obtain ⟨⟨document, parsed⟩, readable⟩ := readable_of_attempt_mask done
    obtain ⟨paths, -, masked⟩ := exists_spelled readable
    have drafted : ∀ document, (Edit.mask sources).draft document = .ok (paths.foldl maskPath (.start document)) :=
      fun document => masked (.start document)
    have legible := legible_of_parse parsed
    obtain ⟨draft, made⟩ : ∃ draft, draft = paths.foldl maskPath (.start document) := ⟨_, rfl⟩
    have whole : draft.document = overlay (maskings paths document) document :=
      made ▸ document_foldl_maskPath legible paths
    have formed' : draft.document.WellFormed := made ▸ (legible_foldl_maskPath legible paths).formed
    have settled : ∀ here, maskings paths draft.document here = none := by
      rw [whole] at formed' ⊢
      exact maskings_overlay legible.formed formed'
    have again : ∀ here, maskings paths draft.reading here = none := by
      rcases draft.reading_cases with same | same <;> rw [same]
      · exact settled
      · exact maskings_reread formed' settled
    have first := succeeds_of_drafted rfl parsed (made ▸ drafted document)
    have reread := parse_finish_of_flat rfl parsed (made ▸ drafted document)
    have second := (succeeds_of_drafted rfl reread (drafted _)).attempted
    rw [foldl_maskPath_of_none again] at second
    rw [apply_of_attempt_ok first.attempted]
    exact apply_of_attempt_ok second

end Texts

/-- Masking succeeds just when all the texts are paths, and fails with the first that is not. It masks once each
member that any of the paths names in the document as it was, so that neither the order of the paths nor their
repetition matters. The text of what was masked stays as it is when it is masked again, also where its numbers are not
read back. -/
theorem masks_once_what_any_path_names (sources : List String) (text : String) :
    let edit := Edit.mask sources
    (∀ document, parse text = .ok document →
      ((∃ output, edit.attempt text = .ok output) ↔ ∀ source ∈ sources, ReadsAsPath source) ∧
        (∀ front source back fault, sources = front ++ source :: back →
          (∀ earlier ∈ front, ReadsAsPath earlier) → Path.parse source = .error fault →
            edit.attempt text = .error (.badPath source fault)) ∧
        ∀ output, edit.attempt text = .ok output →
          ∃ draft, edit.Succeeds text document draft ∧ output = draft.finish text ∧
            Masked sources document draft.document) ∧
      (∀ sources', (∀ source, source ∈ sources' ↔ source ∈ sources) →
        (∀ output, (Edit.mask sources').attempt text = .ok output ↔ edit.attempt text = .ok output) ∧
          (Edit.mask sources').apply text = edit.apply text) ∧
      edit.apply (edit.apply text) = edit.apply text := by
  intro edit
  refine ⟨fun document parsed => ⟨⟨?_, ?_⟩, ?_, ?_⟩, fun sources' same => ⟨fun output => ⟨?_, ?_⟩, ?_⟩,
    apply_mask_mask sources text⟩
  · rintro ⟨output, done⟩
    exact (readable_of_attempt_mask done).2
  · intro readable
    obtain ⟨paths, -, succeeds⟩ := succeeds_mask_of_readable parsed readable
    exact ⟨_, succeeds.attempted⟩
  · rintro front source back fault rfl readable malformed
    exact attempt_mask_of_malformed parsed readable malformed
  · intro output done
    obtain ⟨paths, spelled, succeeds⟩ := succeeds_mask_of_readable parsed (readable_of_attempt_mask done).2
    refine ⟨_, succeeds, Except.ok.inj (done.symm.trans succeeds.attempted), ?_⟩
    rw [document_foldl_maskPath (legible_of_parse parsed)]
    exact masked_overlay_maskings spelled document
  · exact attempt_mask_congr fun source => (same source).symm
  · exact attempt_mask_congr same
  · exact apply_mask_congr same text

/-- A card is named twice, and an element of a list is named that is no member. -/
theorem card_is_masked_once :
    let document : Json := .obj [("card", .str "4111111111111111"),
      ("pins", .arr [.obj [("pin", .bool true)], .str "1234"])]
    let edit := Edit.mask ["$..pin", "$.card", "$.pins[1]", "$.card"]
    ∃ output draft, edit.attempt document.render = .ok output ∧ edit.Succeeds document.render document draft ∧
      draft.document.get? [.key "card"] = some (.str "************1111") ∧
      draft.document.get? [.key "pins", .index 0, .key "pin"] = some (.str "****") ∧
      AlikeAt document draft.document [.key "pins", .index 1] ∧
      (Edit.mask ["$.card", "$.pins[1]", "$..pin"]).attempt document.render = .ok output ∧
      edit.apply output = output := by
  intro document edit
  have sorted : "card" < "pins" := by decide
  have formed : document.WellFormed := by
    simp only [document, WellFormed, WellFormedMembers, WellFormedItems, Members.Ordered, List.pairwise_pair,
      List.pairwise_singleton, sorted, and_self]
  have numbers : document.NumbersValid := by
    simp [document, NumbersValid, NumbersValidMembers, NumbersValidItems]
  have legible : document.Legible maxDepth := ⟨formed, numbers, by decide⟩
  have readable : ∀ source ∈ ["$..pin", "$.card", "$.pins[1]", "$.card"], ReadsAsPath source := by
    simp only [List.forall_mem_cons]
    exact ⟨⟨_, rfl⟩, ⟨_, rfl⟩, ⟨_, rfl⟩, ⟨_, rfl⟩, List.forall_mem_nil _⟩
  obtain ⟨exact', alike, again⟩ := masks_once_what_any_path_names
    ["$..pin", "$.card", "$.pins[1]", "$.card"] document.render
  obtain ⟨succeeds, -, masked⟩ := exact' document (legible.parse_render_self rfl)
  obtain ⟨output, done⟩ := succeeds.mpr readable
  obtain ⟨draft, drafted, -, masked⟩ := masked output done
  have card : Segment.Leads ⟨false, [.name "card"]⟩ document [.key "card"] :=
    ⟨[], .key "card", document, rfl, fun _ => rfl, rfl, .name "card", List.mem_singleton_self _, .name rfl⟩
  have pin : Segment.Leads ⟨true, [.name "pin"]⟩ document [.key "pins", .index 0, .key "pin"] :=
    ⟨[.key "pins", .index 0], .key "pin", .obj [("pin", .bool true)], rfl, fun plain => Bool.noConfusion plain,
      rfl, .name "pin", List.mem_singleton_self _, .name rfl⟩
  refine ⟨output, draft, done, drafted, masked.masked _ "4111111111111111" ⟨?_, rfl, rfl, ?_⟩,
    masked.masked _ "true" ⟨?_, rfl, rfl, ?_⟩, masked.others _ ?_, ?_, ?_⟩
  · exact ⟨_, ⟨"$.card", by simp, rfl⟩, (mem_locate formed).mpr (.cons card rfl .nil)⟩
  · decide
  · exact ⟨_, ⟨"$..pin", by simp, rfl⟩, (mem_locate formed).mpr (.cons pin rfl .nil)⟩
  · decide
  · intro text exposed
    exact Bool.noConfusion exposed.isMember
  · refine ((alike _ fun source => ?_).1 output).mpr done
    simp only [List.mem_cons, List.not_mem_nil, or_false]
    grind
  · rwa [apply_of_attempt_ok done] at again

end Relay.Json
