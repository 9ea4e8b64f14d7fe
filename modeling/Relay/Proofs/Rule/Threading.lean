import Relay.Proofs.Json.EditedText
import Relay.Proofs.Rule.Plain
import Relay.Proofs.Rule.Replacement

/-!
# Rules read what rules leave

A body whose text is a document stays one under every rule of requests, so no such rule fails to read what the
rules before it left. A rule of responses can merge members until the text nests too deep for the next rule;
from there on the body stays as it is.
-/

namespace Relay.Rule
open Http
open Json (EditError ReadError)

/-- The text of a body is a document. -/
def HoldsDocument (body : Body) : Prop :=
  ∃ text document, body.text? = some text ∧ Json.parse text = .ok document

/-- The text of a body is refused because it nests too deep. -/
def NestsTooDeep (body : Body) : Prop :=
  ∃ text, body.text? = some text ∧ Json.parse text = .error .tooDeep

/-- A rule has failed because it could not read the body. -/
def FailsToRead (result : Except RuleError Outcome) : Prop :=
  ∃ label error, result = .error (.failed label (EditError.unreadable error).message)

/-! ### Messages -/

theorem starts_append {cs : List Char} {front : String} (starts : cs <+: front.toList)
    (rest : String) : cs <+: (front ++ rest).toList := by
  rw [String.toList_append]
  exact starts.trans (List.prefix_append _ _)

/-- How messages about bodies that cannot be read begin, and no others do. -/
def unreadableStart : List Char := "invalid JSON d".toList

theorem not_unreadableStart {front : List Char} {s : String} (starts : front <+: s.toList)
    (long : unreadableStart.length ≤ front.length) (other : ¬ unreadableStart <+: front) :
    ¬ unreadableStart <+: s.toList :=
  fun both => other (List.prefix_of_prefix_length_le both starts long)

theorem unreadableStart_message (error : ReadError) :
    unreadableStart <+: (EditError.unreadable error).message.toList :=
  have starts : unreadableStart <+: "invalid JSON document: ".toList := by decide +kernel
  starts_append starts error.message

theorem not_unreadableStart_message {error : EditError} (readable : ∀ e, error ≠ .unreadable e) :
    ¬ unreadableStart <+: error.message.toList := by
  cases error with
  | unreadable e => exact absurd rfl (readable e)
  | badPath path fault =>
    have starts := starts_append (List.prefix_refl "invalid JSON path '".toList) path
    exact not_unreadableStart (starts_append (starts_append starts "': ") fault.message)
      (by decide +kernel) (by decide +kernel)
  | noNodes path =>
    have starts := starts_append (List.prefix_refl "no nodes found at path '".toList) path
    exact not_unreadableStart (starts_append starts "'") (by decide +kernel) (by decide +kernel)

theorem not_failsToRead_failed {label reason : String} (other : ¬ unreadableStart <+: reason.toList) :
    ¬ FailsToRead (.error (.failed label reason)) := by
  rintro ⟨_, error, same⟩
  obtain ⟨-, rfl⟩ := RuleError.failed.inj (Except.error.inj same)
  exact other (unreadableStart_message error)

theorem not_failsToRead_ok (outcome : Outcome) : ¬ FailsToRead (.ok outcome) := by
  rintro ⟨_, _, same⟩
  cases same

theorem not_failsToRead_missing (name : String) : ¬ FailsToRead (.error (.missingHeader name)) := by
  rintro ⟨_, _, same⟩
  cases same

/-! ### One rule -/

theorem editBody_reads (rule : Rule) (edit : Json.Edit) {body : Body} (holds : HoldsDocument body) :
    ¬ FailsToRead ((rule.editBody edit).on body).1 := by
  obtain ⟨text, document, read, parsed⟩ := holds
  rw [on_editBody]
  split
  · rename_i failed
    rw [bodyText_error failed]
    exact not_failsToRead_failed (by decide +kernel)
  · exact not_failsToRead_ok _
  · rename_i shown
    obtain rfl := Option.some.inj (read.symm.trans (bodyText_eq_some.mp shown).2)
    split
    · rename_i failed
      exact not_failsToRead_failed (not_unreadableStart_message (Json.readable_attempt parsed failed))
    · split <;> exact not_failsToRead_ok _

theorem onRequest_reads (rule : Rule) {draft : RequestDraft}
    (holds : ∀ body, draft.body = some body → HoldsDocument body) :
    ¬ FailsToRead (rule.onRequest.on draft).1 := by
  unfold onRequest
  split
  · rw [on_requireHeader]
    split
    · exact not_failsToRead_ok _
    · exact not_failsToRead_missing _
  · rw [on_setHeader]
    split
    · exact not_failsToRead_ok _
    · have starts := starts_append (List.prefix_refl "invalid value for '".toList)
      exact not_failsToRead_failed (not_unreadableStart (starts_append (starts _) _)
        (by decide +kernel) (by decide +kernel))
    · have starts := starts_append (List.prefix_refl "invalid header name '".toList)
      exact not_failsToRead_failed (not_unreadableStart (starts_append (starts _) _)
        (by decide +kernel) (by decide +kernel))
  · rw [on_setQueryParam]
    split
    · exact not_failsToRead_ok _
    · rename_i error _
      exact not_failsToRead_failed (by cases error <;> decide +kernel)
  · split
    · rename_i edit _
      rw [on_onHeldBody]
      split
      · exact not_failsToRead_ok _
      · rename_i body held
        exact editBody_reads rule edit (holds body held)
    · exact not_failsToRead_ok _

/-- What a rule brings along can be written in a text. -/
def Writable : Rule → Prop
  | injectMetadata _ metadata => (Json.obj metadata).WellFormed ∧ (Json.obj metadata).NumbersValid
  | _ => True

theorem flat_requestEdit {rule : Rule} {edit : Json.Edit} (edits : rule.requestEdit = some edit) :
    edit.merges = false ∧ edit.Writable := by
  unfold requestEdit at edits
  split at edits <;> cases edits <;> exact ⟨rfl, trivial⟩

theorem writable_responseEdit {now : Instant} {rule : Rule} {edit : Json.Edit} (writable : rule.Writable)
    (edits : rule.responseEdit now = some edit) : edit.Writable := by
  unfold responseEdit at edits
  split at edits <;> cases edits
  · exact writable
  · trivial

theorem eq_of_responseEdit_merges {now : Instant} {rule : Rule} {edit : Json.Edit}
    (edits : rule.responseEdit now = some edit) (merges : edit.merges = true) :
    ∃ path metadata, rule = .injectMetadata (some path) metadata := by
  unfold responseEdit at edits
  split at edits <;> cases edits
  · exact ⟨_, _, rfl⟩
  · cases merges

/-- The body that an edit leaves holds a document again, unless the edit has merged members until it nests
too deep. -/
theorem holdsDocument_replace {edit : Json.Edit} (writable : edit.Writable) (body : Body)
    {text output : String} (attempted : edit.attempt text = .ok output) :
    HoldsDocument (body.replace output.toUTF8) ∨
      edit.merges = true ∧ NestsTooDeep (body.replace output.toUTF8) := by
  obtain ⟨document, draft, parsed, drafted, rfl⟩ := Json.attempt_eq_ok.mp attempted
  have shown := text?_replace body (draft.finish text)
  have reads := Json.parse_finish writable parsed drafted
  by_cases shallow : draft.document.depth ≤ Json.maxDepth
  · rw [if_pos shallow] at reads
    exact .inl ⟨_, _, shown, reads⟩
  · rw [if_neg shallow] at reads
    refine .inr ⟨?_, _, shown, reads⟩
    cases merges : edit.merges with
    | true => rfl
    | false => exact absurd (Json.depth_draft_le merges parsed drafted) shallow

theorem holdsDocument_onRequest (rule : Rule) {draft : RequestDraft}
    (holds : ∀ body, draft.body = some body → HoldsDocument body) :
    ∀ body, (rule.onRequest.on draft).2.body = some body → HoldsDocument body := by
  rcases ran : rule.onRequest.on draft with ⟨result, after⟩
  cases onRequest_step ran with
  | kept | missing | failed | header | query => exact holds
  | body edits held read attempted different =>
    intro left same
    obtain rfl := Option.some.inj same
    obtain ⟨flat, writable⟩ := flat_requestEdit edits
    rcases holdsDocument_replace writable _ attempted with again | ⟨merges, -⟩
    · exact again
    · exact absurd (flat.symm.trans merges) nofun

theorem onResponse_reads (now : Instant) (rule : Rule) {body : Body} (holds : HoldsDocument body) :
    ¬ FailsToRead ((rule.onResponse now).on body).1 := by
  unfold onResponse
  split
  · exact editBody_reads rule _ holds
  · exact not_failsToRead_ok _

theorem holdsDocument_onResponse {now : Instant} {rule : Rule} (writable : rule.Writable) {body : Body}
    (holds : HoldsDocument body) :
    HoldsDocument ((rule.onResponse now).on body).2 ∨
      (∃ path metadata, rule = .injectMetadata (some path) metadata) ∧
        NestsTooDeep ((rule.onResponse now).on body).2 := by
  rcases ran : (rule.onResponse now).on body with ⟨result, after⟩
  cases onResponse_step ran with
  | kept | failed => exact .inl holds
  | changed edits read attempted different =>
    exact (holdsDocument_replace (writable_responseEdit writable edits) body attempted).imp_right
      fun ⟨merges, deep⟩ => ⟨eq_of_responseEdit_merges edits merges, deep⟩

theorem holdsDocument_onResponse_of_plain {now : Instant} {rule : Rule}
    (plain : ∀ path metadata, rule ≠ .injectMetadata (some path) metadata) {body : Body}
    (holds : HoldsDocument body) : HoldsDocument ((rule.onResponse now).on body).2 := by
  rcases ran : (rule.onResponse now).on body with ⟨result, after⟩
  cases onResponse_step ran with
  | kept | failed => exact holds
  | @changed edit _ _ edits read attempted different =>
    have flat : edit.merges = false := by
      cases merges : edit.merges with
      | false => rfl
      | true =>
        obtain ⟨path, metadata, same⟩ := eq_of_responseEdit_merges edits merges
        exact absurd same (plain path metadata)
    rcases holdsDocument_replace (Json.Edit.writable_of_flat flat) body attempted with again | ⟨merges, -⟩
    · exact again
    · exact absurd (flat.symm.trans merges) nofun

theorem not_blank_of_tooDeep {body : Body} {text : String} (read : body.text? = some text)
    (deep : Json.parse text = .error .tooDeep) : body.isBlank = false := by
  cases blank : body.isBlank with
  | false => rfl
  | true =>
    have spaces := Json.isBlankChar_of_isBlank read blank
    unfold Json.parse Json.tokens at deep
    rcases Json.tokensFrom_blank text.toList.length spaces with none | ⟨rest, some⟩
    · rw [none] at deep
      cases deep
    · rw [some] at deep
      cases deep

/-- What a rule that edits reports of a body that nests too deep. -/
def tooDeepError (rule : Rule) : RuleError := .failed rule.label (EditError.unreadable .tooDeep).message

/-- A body that nests too deep is read by no rule, and stays. -/
theorem onResponse_of_tooDeep (now : Instant) (rule : Rule) {body : Body} (deep : NestsTooDeep body) :
    (rule.onResponse now).on body =
      (if (rule.responseEdit now).isSome then .error rule.tooDeepError
        else .ok (if rule.forResponses then .unchanged else .unsupported), body) := by
  obtain ⟨text, read, refused⟩ := deep
  unfold onResponse
  cases edits : rule.responseEdit now with
  | none => rfl
  | some edit =>
    have attempted : edit.attempt text = .error (.unreadable .tooDeep) := by
      unfold Json.Edit.attempt
      rw [refused]
      rfl
    have shown : rule.bodyText body = .ok (some text) :=
      bodyText_eq_some.mpr ⟨not_blank_of_tooDeep read refused, read⟩
    simp only [on_editBody, shown, attempted]
    rfl

/-! ### Rules one after another -/

theorem holdsDocument_draftAfter (rules : List Rule) {draft : RequestDraft}
    (holds : ∀ body, draft.body = some body → HoldsDocument body) :
    ∀ body, (draftAfter rules draft).body = some body → HoldsDocument body := by
  induction rules generalizing draft with
  | nil => exact holds
  | cons rule rules ih => exact ih (holdsDocument_onRequest rule holds)

theorem take_succ_of_none {rules : List Rule} {i : Nat} (past : rules[i]? = none) :
    rules.take (i + 1) = rules.take i := by
  have long := List.getElem?_eq_none_iff.mp past
  rw [List.take_of_length_le long, List.take_of_length_le (Nat.le_succ_of_le long)]

theorem holds_or_tooDeep_bodyAfter (clock : Nat → Instant) {rules : List Rule}
    (writable : ∀ rule ∈ rules, rule.Writable) {body : Body} (holds : HoldsDocument body) (place i : Nat) :
    HoldsDocument (bodyAfter clock place (rules.take i) body) ∨
      NestsTooDeep (bodyAfter clock place (rules.take i) body) := by
  -- One rule can make it too deep, and then the next one leaves it.
  induction i with
  | zero => exact .inl holds
  | succ i ih =>
    cases placed : rules[i]? with
    | none =>
      rw [take_succ_of_none placed]
      exact ih
    | some rule =>
      rw [bodyAfter_take_succ clock placed]
      rcases ih with holds | deep
      · exact (holdsDocument_onResponse (writable rule (List.mem_of_getElem? placed)) holds).imp_right
          fun both => both.2
      · rw [onResponse_of_tooDeep _ rule deep]
        exact .inr deep

/-- Where no rule merges, a body stays a document. -/
theorem holdsDocument_bodyAfter (clock : Nat → Instant) {rules : List Rule}
    (plain : ∀ rule ∈ rules, ∀ path metadata, rule ≠ .injectMetadata (some path) metadata) (place : Nat)
    {body : Body} (holds : HoldsDocument body) : HoldsDocument (bodyAfter clock place rules body) := by
  induction rules generalizing place body with
  | nil => exact holds
  | cons rule rules ih =>
    obtain ⟨here, later⟩ := List.forall_mem_cons.mp plain
    exact ih later (place + 1) (holdsDocument_onResponse_of_plain here holds)

/-- What one rule of responses makes of a body that was a document when it came. -/
inductive Threaded (now : Instant) (rule : Rule) (before : Body) : Prop where
  | read (holds : HoldsDocument before) (reads : ¬ FailsToRead ((rule.onResponse now).on before).1)
      (leaves : HoldsDocument ((rule.onResponse now).on before).2 ∨
        (∃ path metadata, rule = .injectMetadata (some path) metadata) ∧
          NestsTooDeep ((rule.onResponse now).on before).2)
  | refused (deep : NestsTooDeep before) (stuck : (rule.onResponse now).on before =
      (if (rule.responseEdit now).isSome then .error rule.tooDeepError
        else .ok (if rule.forResponses then .unchanged else .unsupported), before))

/-- The text that an edit leaves is read, as the document it has made up to numbers that are not read back, if that
does not nest too deep; only merging can make it do so. So no rule of requests fails to read what the rules before it
leave. Rules of responses read it as long as none has merged members too deep; once one has, those behind it leave the
body as it is, and each that edits says that it nests too deep. -/
theorem rules_read_what_rules_leave (clock : Nat → Instant) (rules : List Rule) (i : Nat) :
    (∀ (edit : Json.Edit) (text output : String), edit.Writable → edit.attempt text = .ok output →
      ∃ document draft, Json.parse text = .ok document ∧ edit.draft document = .ok draft ∧
        (Json.parse output =
          if draft.document.depth ≤ Json.maxDepth then .ok draft.reading else .error .tooDeep) ∧
        (edit.merges = false → draft.document.depth ≤ Json.maxDepth)) ∧
    (∀ draft : RequestDraft, (∀ body, draft.body = some body → HoldsDocument body) →
      (∀ body, (draftAfter (rules.take i) draft).body = some body → HoldsDocument body) ∧
        ∀ rule : Rule, ¬ FailsToRead (rule.onRequest.on (draftAfter (rules.take i) draft)).1) ∧
    ∀ body : Body, HoldsDocument body → (∀ rule ∈ rules, rule.Writable) →
      (∀ rule, rules[i]? = some rule →
        Threaded (clock i) rule (bodyAfter clock 0 (rules.take i) body)) ∧
      ((∀ rule ∈ rules.take i, ∀ path metadata, rule ≠ .injectMetadata (some path) metadata) →
        HoldsDocument (bodyAfter clock 0 (rules.take i) body)) := by
  refine ⟨fun edit text output writable attempted => ?_, fun draft holds => ?_,
    fun body holds writable => ⟨fun rule placed => ?_, fun plain => ?_⟩⟩
  · obtain ⟨document, draft, parsed, drafted, rfl⟩ := Json.attempt_eq_ok.mp attempted
    exact ⟨document, draft, parsed, drafted, Json.parse_finish writable parsed drafted,
      fun flat => Json.depth_draft_le flat parsed drafted⟩
  · have left := holdsDocument_draftAfter (rules.take i) holds
    exact ⟨left, fun rule => onRequest_reads rule left⟩
  · rcases holds_or_tooDeep_bodyAfter clock writable holds 0 i with holds | deep
    · exact .read holds (onResponse_reads _ rule holds)
        (holdsDocument_onResponse (writable rule (List.mem_of_getElem? placed)) holds)
    · exact .refused deep (onResponse_of_tooDeep _ rule deep)
  · exact holdsDocument_bodyAfter clock plain 0 holds

theorem injected_member_is_read_again :
    let rules : List Rule :=
      [.injectMetadata (some "$") [("m", .bool true)], .modifyJsonValue (some "$.m") none (some "x")]
    let body := Body.ofBytes (Json.obj [("a", .null)]).render.toUTF8
    HoldsDocument body ∧ (∀ rule ∈ rules, rule.Writable) ∧
      Threaded ⟨0, 0⟩ (.modifyJsonValue (some "$.m") none (some "x"))
        (bodyAfter (fun _ => ⟨0, 0⟩) 0 (rules.take 1) body) := by
  intro rules body
  have legible : ∀ name v, Json.Legible 126 v → Json.Legible 127 (.obj [(name, v)]) := fun name v legible =>
    Json.Legible.obj.mpr ⟨List.pairwise_singleton _ _, by simpa using legible⟩
  have holds : HoldsDocument body :=
    ⟨_, _, Text.ofBytes?_eq_some.mpr rfl, (legible "a" .null .null).parse_render⟩
  have metadata := legible "m" (.bool true) (.bool true)
  have writable : ∀ rule ∈ rules, rule.Writable := by
    simpa [rules, Writable] using ⟨metadata.formed, metadata.numbers⟩
  obtain ⟨-, -, responses⟩ := rules_read_what_rules_leave (fun _ => ⟨0, 0⟩) rules 1
  exact ⟨holds, writable, (responses body holds writable).1 _ rfl⟩

/-- A list in a list, and so on. -/
def nestedList : Nat → Json
  | 0 => .arr []
  | levels + 1 => .arr [nestedList levels]

theorem legible_nestedList (levels : Nat) : (nestedList levels).Legible (levels + 1) := by
  induction levels with
  | zero => exact Json.Legible.arr.mpr (by simp)
  | succ levels ih => exact Json.Legible.arr.mpr (by simpa using ih)

/-- A member that goes as deep as the reader does is merged one step below the root. -/
theorem merged_too_deep_is_refused :
    ¬ ∀ (edit : Json.Edit) (text output : String), edit.Writable → edit.attempt text = .ok output →
      ∃ document, Json.parse output = .ok document := by
  intro all
  have metadata : Json.Legible 127 (.obj [("m", nestedList 125)]) :=
    Json.Legible.obj.mpr ⟨List.pairwise_singleton _ _, by simpa using legible_nestedList 125⟩
  have document : Json.Legible 127 (.obj [("a", .obj [])]) := by
    constructor
    · simp [Json.WellFormed, Json.WellFormedMembers, Json.Members.Ordered]
    · simp [Json.NumbersValid, Json.NumbersValidMembers]
    · decide
  have writable : (Json.Edit.inject "$.a" [("m", nestedList 125)] ⟨0, 0⟩).Writable :=
    ⟨metadata.formed, metadata.numbers⟩
  have parsed := document.parse_render
  have deep : ((Json.Edit.inject "$.a" [("m", nestedList 125)] ⟨0, 0⟩).draft
      (.obj [("a", .obj [])])).toOption.map (·.document.depth) = some 128 := by decide +kernel
  cases drafted : (Json.Edit.inject "$.a" [("m", nestedList 125)] ⟨0, 0⟩).draft (.obj [("a", .obj [])]) with
  | error e =>
    rw [drafted] at deep
    cases deep
  | ok draft =>
    rw [drafted] at deep
    have reached : draft.document.depth = 128 := Option.some.inj deep
    have below : ¬ draft.document.depth ≤ Json.maxDepth := by
      rw [reached]
      decide
    have attempted := Json.attempt_eq_ok.mpr ⟨_, draft, parsed, drafted, rfl⟩
    obtain ⟨again, read⟩ := all _ _ _ writable attempted
    have refused := Json.parse_finish writable parsed drafted
    rw [if_neg below, read] at refused
    cases refused

end Relay.Rule
