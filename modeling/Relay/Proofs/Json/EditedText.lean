import Relay.Proofs.Json.EditedDocument
import Relay.Proofs.Json.Nesting

/-!
# Texts that edits leave

The text that an edit leaves is read as the document that the edit made, with its numbers read again if anything has
changed, unless that document nests deeper than a reader goes. Only merging can make it do so.
-/

namespace Relay.Json

/-! ### Edits of documents -/

/-- What an edit brings along can be written in a text. -/
def Edit.Writable : Edit → Prop
  | .inject _ metadata _ => (Json.obj metadata).WellFormed ∧ (Json.obj metadata).NumbersValid
  | _ => True

def Edit.merges : Edit → Bool
  | .inject .. => true
  | _ => false

theorem Edit.writable_of_flat {edit : Edit} (flat : edit.merges = false) : edit.Writable := by
  cases edit with
  | inject => cases flat
  | _ => exact trivial

theorem legible_stamped (now : Instant) {metadata : Members Json} {depth : Nat}
    (legible : ∀ member ∈ metadata, member.2.Legible depth) :
    ∀ member ∈ stamped now metadata, member.2.Legible depth := by
  intro member present
  obtain ⟨was, before, rfl⟩ := List.mem_map.mp present
  have same := legible was before
  split
  · split
    · exact .str _
    · exact same
  · exact same

theorem exists_legible_members {metadata : Members Json} (formed : (Json.obj metadata).WellFormed)
    (numbers : (Json.obj metadata).NumbersValid) : ∃ depth, ∀ member ∈ metadata, member.2.Legible depth :=
  ⟨depthMembers metadata, (Legible.obj.mp ⟨formed, numbers, Nat.le_refl _⟩).2⟩

/-- An edit leaves a document that can be written; it nests no deeper than before, unless the edit
merges. -/
theorem legible_draft {edit : Edit} (writable : edit.Writable) {document : Json} {draft : Draft}
    (drafted : edit.draft document = .ok draft) {depth : Nat} (legible : document.Legible depth) :
    ∃ deeper, draft.document.Legible deeper ∧ (edit.merges = false → deeper = depth) := by
  cases edit with
  | replace path expected value =>
    obtain ⟨locations, -, same⟩ := bind_ok drafted
    cases same
    exact ⟨depth, legible_changeAll (deepens_replacement expected value) _ legible, fun _ => rfl⟩
  | inject path metadata now =>
    obtain ⟨locations, -, same⟩ := bind_ok drafted
    cases same
    obtain ⟨more, each⟩ := exists_legible_members writable.1 writable.2
    exact ⟨_, legible_changeAll (deepens_merged (legible_stamped now each)) locations legible, nofun⟩
  | mask paths => exact ⟨depth, legible_maskPaths drafted legible, fun _ => rfl⟩
  | remove path =>
    obtain ⟨locations, -, same⟩ := bind_ok drafted
    cases same
    exact ⟨depth, legible_removeMembers legible, fun _ => rfl⟩
  | rename old new =>
    rw [Edit.draft] at drafted
    split at drafted <;> cases drafted
    · exact ⟨depth, legible, fun _ => rfl⟩
    · exact ⟨depth, legible_renamed old new legible, fun _ => rfl⟩

/-! ### Edits that change nothing -/

theorem unchanged_foldl {α : Type} {step : Draft → α → Draft}
    (each : ∀ draft x, (step draft x).changed = false → step draft x = draft) (xs : List α) (draft : Draft)
    (same : (xs.foldl step draft).changed = false) : xs.foldl step draft = draft := by
  induction xs generalizing draft with
  | nil => rfl
  | cons x rest ih =>
    have later := ih (step draft x) same
    rw [List.foldl_cons, later] at same ⊢
    exact each draft x same

theorem unchanged_change (f : Json → Option Json) (draft : Draft) (location : Location)
    (same : (draft.change f location).changed = false) : draft.change f location = draft := by
  unfold Draft.change at same ⊢
  split at same
  · cases same
  · rfl

theorem unchanged_changeAll (f : Json → Option Json) (locations : List Location) (draft : Draft)
    (same : (draft.changeAll f locations).changed = false) : draft.changeAll f locations = draft :=
  unchanged_foldl (unchanged_change f) locations draft same

theorem unchanged_removeAt (draft : Draft) (location : Location)
    (same : (removeAt draft location).changed = false) : removeAt draft location = draft := by
  unfold removeAt at same ⊢
  split at same
  · exact unchanged_change _ _ _ same
  · rfl

theorem unchanged_maskPaths {paths : List String} {draft after : Draft}
    (masked : maskPaths draft paths = .ok after) (same : after.changed = false) : after = draft := by
  induction paths generalizing draft with
  | nil =>
    cases masked
    rfl
  | cons path rest ih =>
    obtain ⟨path, -, masked⟩ := bind_ok masked
    have later := ih masked
    rw [later] at same ⊢
    exact unchanged_changeAll _ _ _ same

mutual

theorem renamed_of_count_zero (old new : String) (v : Json) (none : renameCount old v = 0) :
    renamed old new v = v := by
  match v with
  | .null | .bool _ | .num _ | .str _ => rfl
  | .arr items => rw [renamed, renamedItems_of_count_zero old new items none]
  | .obj members =>
    obtain ⟨absent, same⟩ := renamedMembers_of_count_zero old new members none
    rw [renamed, absent, same]

theorem renamedItems_of_count_zero (old new : String) (items : List Json)
    (none : renameCountItems old items = 0) : renamedItems old new items = items := by
  match items with
  | [] => rfl
  | v :: rest =>
    obtain ⟨here, later⟩ := Nat.add_eq_zero_iff.mp none
    rw [renamedItems, renamed_of_count_zero old new v here, renamedItems_of_count_zero old new rest later]

theorem renamedMembers_of_count_zero (old new : String) (members : List (String × Json))
    (none : renameCountMembers old members = 0) :
    Members.get? old members = .none ∧ renamedMembers old new members = members := by
  match members with
  | [] => exact ⟨rfl, rfl⟩
  | (k, v) :: rest =>
    obtain ⟨here, later⟩ := Nat.add_eq_zero_iff.mp none
    obtain ⟨absent, same⟩ := renamedMembers_of_count_zero old new rest later
    split at here
    · cases here
    · rename_i other
      rw [Members.get?, renamedMembers, if_neg other, if_neg other, same,
        renamed_of_count_zero old new v here]
      exact ⟨absent, rfl⟩

end

theorem unchanged_draft {edit : Edit} {document : Json} {draft : Draft}
    (drafted : edit.draft document = .ok draft) (same : draft.changed = false) :
    draft.document = document := by
  cases edit with
  | replace path expected value =>
    obtain ⟨locations, -, drafted⟩ := bind_ok drafted
    cases drafted
    rw [replaceMembers, unchanged_changeAll _ _ _ same]
    rfl
  | inject path metadata now =>
    obtain ⟨locations, -, drafted⟩ := bind_ok drafted
    cases drafted
    rw [mergeAt, unchanged_changeAll _ _ _ same]
    rfl
  | mask paths =>
    rw [unchanged_maskPaths drafted same]
    rfl
  | remove path =>
    obtain ⟨locations, -, drafted⟩ := bind_ok drafted
    cases drafted
    rw [removeMembers, unchanged_foldl unchanged_removeAt _ _ same]
    rfl
  | rename old new =>
    rw [Edit.draft] at drafted
    split at drafted <;> cases drafted
    · rfl
    · exact renamed_of_count_zero old new document (by simpa using same)

/-! ### Edits of texts -/

theorem attempt_eq_ok {edit : Edit} {text output : String} :
    edit.attempt text = .ok output ↔ ∃ document draft, parse text = .ok document ∧
      edit.draft document = .ok draft ∧ draft.finish text = output := by
  unfold Edit.attempt
  cases parse text with
  | error e => simp [Except.mapError, bind, Except.bind]
  | ok document =>
    cases drafted : edit.draft document with
    | error e => simp [Except.mapError, bind, Except.bind, drafted]
    | ok draft => simp [Except.mapError, bind, Except.bind, drafted, pure, Except.pure]

/-! ### Paths of edits -/

theorem readPath_of_parse {source : String} {path : Path} (read : Path.parse source = .ok path) :
    readPath source = .ok path := by
  rw [readPath, read]
  rfl

theorem parse_of_readPath {source : String} {path : Path} (read : readPath source = .ok path) :
    Path.parse source = .ok path := by
  unfold readPath at read
  cases parsed : Path.parse source <;> rw [parsed] at read <;> cases read
  rfl

theorem located_eq_ok_iff {source : String} {document : Json} {locations : List Location} :
    located source document = .ok locations ↔
      ∃ path, Path.parse source = .ok path ∧ path.locate document = locations ∧ locations ≠ [] := by
  constructor
  · intro found
    obtain ⟨path, read, found⟩ := bind_ok found
    refine ⟨path, parse_of_readPath read, ?_⟩
    split at found
    · cases found
    · rename_i named
      cases found
      exact ⟨rfl, named⟩
  · rintro ⟨path, read, rfl, named⟩
    rw [located, readPath_of_parse read]
    simp only [bind, Except.bind]
    rfl

theorem located_of_none {source : String} {path : Path} {document : Json} (read : Path.parse source = .ok path)
    (none : path.locate document = []) : located source document = .error (.noNodes source) := by
  rw [located, readPath_of_parse read]
  simp only [bind, Except.bind, none]
  rfl

/-! ### Edits that fail -/

theorem readable_readPath {path : String} {error : EditError}
    (failed : readPath path = .error error) : ∀ e, error ≠ .unreadable e := by
  unfold readPath at failed
  cases read : Path.parse path <;> rw [read] at failed <;> cases failed
  nofun

theorem readable_located {path : String} {document : Json} {error : EditError}
    (failed : located path document = .error error) : ∀ e, error ≠ .unreadable e := by
  rcases bind_error failed with failed | ⟨path, -, failed⟩
  · exact readable_readPath failed
  · split at failed <;> cases failed
    nofun

theorem readable_maskPaths {paths : List String} {draft : Draft} {error : EditError}
    (failed : maskPaths draft paths = .error error) : ∀ e, error ≠ .unreadable e := by
  induction paths generalizing draft with
  | nil => cases failed
  | cons path rest ih =>
    rcases bind_error failed with failed | ⟨path, -, failed⟩
    · exact readable_readPath failed
    · exact ih failed

theorem readable_draft {edit : Edit} {document : Json} {error : EditError}
    (failed : edit.draft document = .error error) : ∀ e, error ≠ .unreadable e := by
  cases edit with
  | replace | inject | remove =>
    rcases bind_error failed with failed | ⟨locations, -, failed⟩
    · exact readable_located failed
    · cases failed
  | mask paths => exact readable_maskPaths failed
  | rename old new =>
    rw [Edit.draft] at failed
    split at failed <;> cases failed

/-- An edit reads a text that is a document, whatever else comes of it. -/
theorem readable_attempt {edit : Edit} {text : String} {document : Json}
    (parsed : parse text = .ok document) {error : EditError}
    (failed : edit.attempt text = .error error) : ∀ e, error ≠ .unreadable e := by
  rcases bind_error failed with failed | ⟨document, -, failed⟩
  · rw [parsed] at failed
    cases failed
  · rcases bind_error failed with failed | ⟨draft, -, failed⟩
    · exact readable_draft failed
    · cases failed

/-! ### What is read of an edited text -/

/-- What is read of the text of a draft: its document, in which numbers are read again if the text is a new one. -/
def Draft.reading (draft : Draft) : Json := if draft.changed then draft.document.reread else draft.document

theorem Draft.reading_of_numbers {draft : Draft} (numbers : draft.document.NumbersReadBack) :
    draft.reading = draft.document := by
  rw [Draft.reading, numbers, ite_self]

theorem Draft.reading_cases (draft : Draft) : draft.reading = draft.document ∨ draft.reading = draft.document.reread := by
  unfold Draft.reading
  split
  · exact .inr rfl
  · exact .inl rfl

/-- What the reader makes of the text that an edit leaves. -/
theorem parse_finish {edit : Edit} (writable : edit.Writable) {text : String} {document : Json}
    (parsed : parse text = .ok document) {draft : Draft} (drafted : edit.draft document = .ok draft) :
    parse (draft.finish text) =
      if draft.document.depth ≤ maxDepth then .ok draft.reading else .error .tooDeep := by
  have legible := legible_of_parse parsed
  obtain ⟨deeper, after, -⟩ := legible_draft writable drafted legible
  unfold Draft.finish Draft.reading
  split
  · exact parse_render_eq after
  · rename_i same
    rw [unchanged_draft drafted (by simpa using same), if_pos legible.shallow, parsed]

theorem legible_draft_of_flat {edit : Edit} (flat : edit.merges = false) {document : Json} {draft : Draft}
    (drafted : edit.draft document = .ok draft) {depth : Nat} (legible : document.Legible depth) :
    draft.document.Legible depth := by
  obtain ⟨deeper, after, same⟩ := legible_draft (Edit.writable_of_flat flat) drafted legible
  exact same flat ▸ after

theorem depth_draft_le {edit : Edit} (flat : edit.merges = false) {text : String} {document : Json}
    (parsed : parse text = .ok document) {draft : Draft} (drafted : edit.draft document = .ok draft) :
    draft.document.depth ≤ maxDepth :=
  (legible_draft_of_flat flat drafted (legible_of_parse parsed)).shallow

theorem finish_of_drafted {edit : Edit} {document : Json} {draft : Draft}
    (drafted : edit.draft document = .ok draft) (text : String) :
    draft.finish text = draft.document.render ∨ draft.finish text = text ∧ draft.document = document := by
  rw [Draft.finish]
  cases changed : draft.changed with
  | true => exact .inl rfl
  | false => exact .inr ⟨rfl, unchanged_draft drafted changed⟩

/-- An edit succeeds on a text with this draft of the document in it. It leaves the text of the draft's document, or
else the text as it was, and that document is then the same. What it leaves is read as the document of the draft,
provided that the numbers in that are read back. -/
structure Edit.Succeeds (edit : Edit) (text : String) (document : Json) (draft : Draft) : Prop where
  drafted : edit.draft document = .ok draft
  attempted : edit.attempt text = .ok (draft.finish text)
  written : draft.finish text = draft.document.render ∨ draft.finish text = text ∧ draft.document = document
  read : draft.document.NumbersReadBack → parse (draft.finish text) = .ok draft.document

theorem parse_finish_of_flat {edit : Edit} (flat : edit.merges = false) {text : String} {document : Json}
    (parsed : parse text = .ok document) {draft : Draft} (drafted : edit.draft document = .ok draft) :
    parse (draft.finish text) = .ok draft.reading :=
  (parse_finish (Edit.writable_of_flat flat) parsed drafted).trans (if_pos (depth_draft_le flat parsed drafted))

theorem succeeds_of_drafted {edit : Edit} (flat : edit.merges = false) {text : String} {document : Json}
    (parsed : parse text = .ok document) {draft : Draft} (drafted : edit.draft document = .ok draft) :
    edit.Succeeds text document draft where
  drafted := drafted
  attempted := attempt_eq_ok.mpr ⟨document, draft, parsed, drafted, rfl⟩
  written := finish_of_drafted drafted text
  read numbers := Draft.reading_of_numbers numbers ▸ parse_finish_of_flat flat parsed drafted

theorem attempt_of_not_drafted {edit : Edit} {text : String} {document : Json}
    (parsed : parse text = .ok document) {error : EditError} (failed : edit.draft document = .error error) :
    edit.attempt text = .error error := by
  rw [Edit.attempt, parsed]
  simp only [Except.mapError, bind, Except.bind, failed]

theorem apply_of_attempt_ok {edit : Edit} {text output : String} (done : edit.attempt text = .ok output) :
    edit.apply text = output := by
  rw [Edit.apply, done]

theorem apply_of_attempt_error {edit : Edit} {text : String} {error : EditError}
    (failed : edit.attempt text = .error error) : edit.apply text = text := by
  rw [Edit.apply, failed]

/-! ### Edits made again -/

/-- An edit that leaves its own document as it is leaves its own text as it is, even where that is not read again. -/
theorem apply_again {edit : Edit} (writable : edit.Writable) {text : String} {document : Json}
    (parsed : parse text = .ok document) {draft : Draft} (drafted : edit.draft document = .ok draft)
    (numbers : draft.document.NumbersReadBack)
    (again : ∀ draft', edit.draft draft.document = .ok draft' → draft'.document = draft.document) :
    edit.apply (draft.finish text) = draft.finish text := by
  rcases finish_of_drafted drafted text with rendered | ⟨same, -⟩
  · cases attempted : edit.attempt (draft.finish text) with
    | error error => exact apply_of_attempt_error attempted
    | ok output =>
      refine (apply_of_attempt_ok attempted).trans ?_
      obtain ⟨document', draft', parsed', drafted', rfl⟩ := attempt_eq_ok.mp attempted
      have reread := parse_finish writable parsed drafted
      rw [parsed', Draft.reading_of_numbers numbers] at reread
      split at reread <;> cases reread
      rcases finish_of_drafted drafted' (draft.finish text) with rendered' | ⟨same, -⟩
      · rw [rendered', again draft' drafted', rendered]
      · exact same
  · rw [same]
    exact apply_of_attempt_ok (attempt_eq_ok.mpr ⟨document, draft, parsed, drafted, same⟩)

end Relay.Json
