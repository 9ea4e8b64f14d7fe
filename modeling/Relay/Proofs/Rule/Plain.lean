import Relay.Proofs.Json.BlankText
import Relay.Proofs.Rule.Sequence

/-!
# Rules as plain functions of texts

What a rule does to a body that is a text is what the plain edit of its kind does to the text. Rules report
failures where plain edits hand back the text, and pass over blank bodies where plain edits fail to read
them; neither makes a difference to the text.
-/

namespace Relay.Rule
open Http

/-- What a rule makes of the text of a request. -/
def plainRequest : Rule → String → String
  | modifyJsonBody (some path) expected (some value) => (Json.Edit.replace path expected value).apply
  | maskSensitiveData paths => (Json.Edit.mask paths).apply
  | removeJsonField (some path) => (Json.Edit.remove path).apply
  | renameJsonField (some old) (some new) => (Json.Edit.rename old new).apply
  | _ => id

/-- What a rule makes of the text of a response at a given time. -/
def plainResponse (now : Instant) : Rule → String → String
  | injectMetadata (some path) metadata => (Json.Edit.inject path metadata now).apply
  | modifyJsonValue (some path) expected (some value) => (Json.Edit.replace path expected value).apply
  | _ => id

/-! ### One edit -/

theorem text?_replace (body : Body) (text : String) : (body.replace text.toUTF8).text? = some text :=
  Text.ofBytes?_eq_some.mpr rfl

theorem text?_editBody (rule : Rule) (edit : Json.Edit) {body : Body} {text : String}
    (read : body.text? = some text) :
    ((rule.editBody edit).on body).2.text? = some (edit.apply text) := by
  rw [on_editBody]
  cases blank : body.isBlank with
  | true =>
    have empty : rule.bodyText body = .ok none := by simp [bodyText, blank]
    rw [empty, Json.apply_blank edit read blank]
    exact read
  | false =>
    rw [bodyText_eq_some.mpr ⟨blank, read⟩]
    cases attempted : edit.attempt text with
    | error error => simp [Json.Edit.apply, attempted, read]
    | ok output =>
      by_cases same : output = text
      · simp [Json.Edit.apply, attempted, same, read]
      · simpa [Json.Edit.apply, attempted, same] using text?_replace body output

theorem editBody_of_not_text (rule : Rule) (edit : Json.Edit) {body : Body} (unreadable : body.text? = none) :
    ((rule.editBody edit).on body).2 = body := by
  rcases ran : (rule.editBody edit).on body with ⟨result, after⟩
  cases editBody_edited ran with
  | kept | failed => rfl
  | changed read => exact absurd (unreadable.symm.trans read) nofun

/-! ### One rule -/

theorem apply_mask_nil (text : String) : (Json.Edit.mask []).apply text = text := by
  unfold Json.Edit.apply Json.Edit.attempt
  cases Json.parse text <;> rfl

theorem plainRequest_eq (rule : Rule) (text : String) :
    rule.plainRequest text = (rule.requestEdit.map fun edit => edit.apply text).getD text := by
  cases rule with
  | modifyJsonBody path expected value => cases path <;> cases value <;> rfl
  | maskSensitiveData paths =>
    cases paths with
    | nil => exact apply_mask_nil text
    | cons path paths => rfl
  | removeJsonField path => cases path <;> rfl
  | renameJsonField old new => cases old <;> cases new <;> rfl
  | _ => rfl

theorem plainResponse_eq (now : Instant) (rule : Rule) (text : String) :
    rule.plainResponse now text = ((rule.responseEdit now).map fun edit => edit.apply text).getD text := by
  cases rule with
  | injectMetadata path metadata => cases path <;> rfl
  | modifyJsonValue path expected value => cases path <;> cases value <;> rfl
  | _ => rfl

theorem body_onRequest (rule : Rule) (draft : RequestDraft) :
    (rule.onRequest.on draft).2.body =
      match rule.requestEdit with
      | some edit => draft.body.map fun body => ((rule.editBody edit).on body).2
      | none => draft.body := by
  unfold onRequest
  split
  · rw [on_requireHeader]
    rfl
  · rw [on_setHeader]
    split <;> rfl
  · rw [on_setQueryParam]
    split <;> rfl
  · cases rule.requestEdit with
    | none => rfl
    | some edit =>
      rw [on_onHeldBody]
      cases held : draft.body <;> simp [held]

theorem text?_onRequest (rule : Rule) {draft : RequestDraft} {body : Body} {text : String}
    (held : draft.body = some body) (read : body.text? = some text) :
    ∃ after, (rule.onRequest.on draft).2.body = some after ∧
      after.text? = some (rule.plainRequest text) := by
  rw [body_onRequest, plainRequest_eq, held]
  cases rule.requestEdit with
  | none => exact ⟨body, rfl, read⟩
  | some edit => exact ⟨_, rfl, text?_editBody rule edit read⟩

theorem text?_onResponse {now : Instant} {rule : Rule} {body : Body} {text : String}
    (read : body.text? = some text) :
    ((rule.onResponse now).on body).2.text? = some (rule.plainResponse now text) := by
  rw [plainResponse_eq]
  unfold onResponse
  cases rule.responseEdit now with
  | none => exact read
  | some edit => exact text?_editBody rule edit read

/-! ### Rules one after another -/

theorem text?_draftAfter (rules : List Rule) {draft : RequestDraft} {body : Body} {text : String}
    (held : draft.body = some body) (read : body.text? = some text) :
    ∃ after, (draftAfter rules draft).body = some after ∧
      after.text? = some (rules.foldl (fun text rule => rule.plainRequest text) text) := by
  induction rules generalizing draft body text with
  | nil => exact ⟨body, held, read⟩
  | cons rule rules ih =>
    obtain ⟨after, held', read'⟩ := text?_onRequest rule held read
    exact ih held' read'

theorem body_draftAfter {rules : List Rule} {draft : RequestDraft}
    (unreadable : ∀ body, draft.body = some body → body.text? = none) :
    (draftAfter rules draft).body = draft.body := by
  induction rules generalizing draft with
  | nil => rfl
  | cons rule rules ih =>
    have same : (rule.onRequest.on draft).2.body = draft.body := by
      rw [body_onRequest]
      cases rule.requestEdit with
      | none => rfl
      | some edit =>
        cases held : draft.body with
        | none => rfl
        | some body => simp [editBody_of_not_text rule edit (unreadable body held)]
    rw [draftAfter_cons, ih fun body held => unreadable body (same.symm.trans held), same]

theorem text?_bodyAfter (clock : Nat → Instant) (place : Nat) (rules : List Rule) {body : Body}
    {text : String} (read : body.text? = some text) :
    (bodyAfter clock place rules body).text? =
      some ((rules.zipIdx place).foldl (fun text placed => placed.1.plainResponse (clock placed.2) text)
        text) := by
  induction rules generalizing place body text with
  | nil => exact read
  | cons rule rules ih => exact ih (place + 1) (text?_onResponse read)

theorem foldl_plainRequest_of_untouched {rules : List Rule}
    (untouched : ∀ rule ∈ rules, rule.touchesBody = false) (text : String) :
    rules.foldl (fun text rule => rule.plainRequest text) text = text := by
  induction rules with
  | nil => rfl
  | cons rule rules ih =>
    rw [List.foldl_cons, plainRequest_eq,
      requestEdit_of_not_touchesBody (untouched rule List.mem_cons_self)]
    exact ih fun other present => untouched other (List.mem_cons_of_mem _ present)

end Relay.Rule
