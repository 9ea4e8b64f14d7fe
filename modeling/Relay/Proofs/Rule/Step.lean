import Relay.Rule.Request
import Relay.Rule.Response

/-!
# What one rule can do

Each of the four kinds of work on a message has one equation. `RequestStep` lists all that a rule can do
to a request and `Edited` all that an edit can do to a body; `onRequest_step` and `onResponse_edited` show
that rules do nothing else.
-/

namespace Relay.Rule
open Http

/-! ### Bodies -/

theorem on_editBody (rule : Rule) (edit : Json.Edit) (body : Body) :
    (rule.editBody edit).on body =
      match rule.bodyText body with
      | .error error => (.error error, body)
      | .ok none => (.ok .unchanged, body)
      | .ok (some text) =>
        match edit.attempt text with
        | .error error => (.error (.failed rule.label error.message), body)
        | .ok output =>
          if output = text then (.ok .unchanged, body)
          else (.ok .changed, body.replace output.toUTF8) := by
  unfold editBody
  simp only [RuleAction.on_bind, RuleAction.on_get, RuleAction.on_liftExcept]
  cases rule.bodyText body with
  | error error => rfl
  | ok read =>
    cases read with
    | none => rfl
    | some text =>
      simp only [RuleAction.on_bind, RuleAction.on_liftExcept]
      cases edit.attempt text with
      | error error => rfl
      | ok output =>
        have passed : ∀ f : Json.EditError → RuleError,
            (Except.ok output : Except Json.EditError String).mapError f = .ok output := fun _ => rfl
        rw [passed]
        by_cases same : output = text
        · simp [same]
        · simp only [if_neg same]
          rfl

theorem bodyText_eq_some {rule : Rule} {body : Body} {text : String} :
    rule.bodyText body = .ok (some text) ↔ body.isBlank = false ∧ body.text? = some text := by
  unfold bodyText
  cases body.isBlank with
  | true => simp
  | false => cases body.text? <;> simp

theorem bodyText_error {rule : Rule} {body : Body} {error : RuleError}
    (failed : rule.bodyText body = .error error) :
    error = .failed rule.label "body is not valid UTF-8" := by
  unfold bodyText at failed
  split at failed
  · cases failed
  · split at failed
    · cases failed
    · exact (Except.error.inj failed).symm

inductive Edited (edit : Json.Edit) (body : Body) : Except RuleError Outcome → Body → Prop where
  | kept : Edited edit body (.ok .unchanged) body
  | failed (label reason : String) : Edited edit body (.error (.failed label reason)) body
  | changed {text output : String} (read : body.text? = some text)
      (attempted : edit.attempt text = .ok output) (different : output ≠ text) :
      Edited edit body (.ok .changed) (body.replace output.toUTF8)

theorem editBody_edited {rule : Rule} {edit : Json.Edit} {body after : Body}
    {result : Except RuleError Outcome} (ran : (rule.editBody edit).on body = (result, after)) :
    Edited edit body result after := by
  rw [on_editBody] at ran
  split at ran
  · rename_i failed
    obtain ⟨rfl, rfl⟩ := Prod.mk.inj ran
    rw [bodyText_error failed]
    exact .failed _ _
  · obtain ⟨rfl, rfl⟩ := Prod.mk.inj ran
    exact .kept
  · rename_i read
    split at ran
    · obtain ⟨rfl, rfl⟩ := Prod.mk.inj ran
      exact .failed _ _
    · rename_i attempted
      split at ran <;> obtain ⟨rfl, rfl⟩ := Prod.mk.inj ran
      · exact .kept
      · rename_i different
        exact .changed (bodyText_eq_some.mp read).2 attempted different

/-! ### Requests -/

theorem on_requireHeader (name : String) (draft : RequestDraft) :
    (requireHeader name).on draft =
      (if draft.headers.has name then .ok .unchanged else .error (.missingHeader name), draft) := by
  unfold requireHeader
  simp only [RuleAction.on_bind, RuleAction.on_get]
  cases draft.headers.has name <;> rfl

theorem on_setHeader (rule : Rule) (name value : String) (draft : RequestDraft) :
    (rule.setHeader name value).on draft =
      match HeaderName.parse name, headerValue? value.toUTF8 with
      | some header, some bytes =>
        (.ok .changed, { draft with headers := draft.headers.insert header bytes })
      | some _, none =>
        (.error (.failed rule.label ("invalid value for '" ++ name ++
          "': failed to parse header value")), draft)
      | none, _ =>
        (.error (.failed rule.label ("invalid header name '" ++ name ++
          "': invalid HTTP header name")), draft) := by
  unfold setHeader
  cases HeaderName.parse name with
  | none => rfl
  | some header => cases headerValue? value.toUTF8 <;> rfl

theorem on_setQueryParam (rule : Rule) (name value : String) (draft : RequestDraft) :
    (rule.setQueryParam name value).on draft =
      match draft.uri.withQuery ((Query.parse (draft.uri.query.getD "")).set name value).render with
      | .ok uri => (.ok .changed, { draft with uri := uri })
      | .error error => (.error (.failed rule.label error.message), draft) := by
  unfold setQueryParam
  simp only [RuleAction.on_bind, RuleAction.on_get, RuleAction.on_liftExcept]
  cases draft.uri.withQuery ((Query.parse (draft.uri.query.getD "")).set name value).render <;> rfl

theorem on_onHeldBody (action : RuleAction Body Outcome) (draft : RequestDraft) :
    (onHeldBody action).on draft =
      match draft.body with
      | none => (.ok .unchanged, draft)
      | some body => ((action.on body).1, { draft with body := some (action.on body).2 }) := by
  unfold onHeldBody
  simp only [RuleAction.on_bind, RuleAction.on_get]
  cases draft.body with
  | none => rfl
  | some body => simp [RuleAction.on_bind]

/-- What a rule can do to a request. -/
inductive RequestStep (rule : Rule) (draft : RequestDraft) :
    Except RuleError Outcome → RequestDraft → Prop where
  | kept {outcome : Outcome} (idle : outcome ≠ .changed) : RequestStep rule draft (.ok outcome) draft
  | missing {name : String} (required : rule = .validateHeader (some name) true)
      (absent : draft.headers.has name = false) :
      RequestStep rule draft (.error (.missingHeader name)) draft
  | failed (label reason : String) : RequestStep rule draft (.error (.failed label reason)) draft
  | header {name value : String} {header : HeaderName} {bytes : HeaderValue}
      (adds : rule = .addHeader (some name) (some value)) (named : HeaderName.parse name = some header)
      (accepted : headerValue? value.toUTF8 = some bytes) :
      RequestStep rule draft (.ok .changed) { draft with headers := draft.headers.insert header bytes }
  | query {name value : String} {uri : Uri} (sets : rule = .modifyQueryParam (some name) (some value))
      (built : draft.uri.withQuery
        ((Query.parse (draft.uri.query.getD "")).set name value).render = .ok uri) :
      RequestStep rule draft (.ok .changed) { draft with uri := uri }
  | body {edit : Json.Edit} {body : Body} {text output : String} (edits : rule.requestEdit = some edit)
      (held : draft.body = some body) (read : body.text? = some text)
      (attempted : edit.attempt text = .ok output) (different : output ≠ text) :
      RequestStep rule draft (.ok .changed) { draft with body := some (body.replace output.toUTF8) }

theorem onRequest_step {rule : Rule} {draft after : RequestDraft} {result : Except RuleError Outcome}
    (ran : rule.onRequest.on draft = (result, after)) : RequestStep rule draft result after := by
  unfold onRequest at ran
  split at ran
  · rw [on_requireHeader] at ran
    obtain ⟨rfl, rfl⟩ := Prod.mk.inj ran
    split
    · exact .kept (by decide)
    · rename_i absent
      exact .missing rfl (by simpa using absent)
  · rw [on_setHeader] at ran
    split at ran <;> obtain ⟨rfl, rfl⟩ := Prod.mk.inj ran
    · exact .header rfl ‹_› ‹_›
    · exact .failed _ _
    · exact .failed _ _
  · rw [on_setQueryParam] at ran
    split at ran <;> obtain ⟨rfl, rfl⟩ := Prod.mk.inj ran
    · exact .query rfl ‹_›
    · exact .failed _ _
  · split at ran
    · rename_i edit edits
      rw [on_onHeldBody] at ran
      split at ran <;> obtain ⟨rfl, rfl⟩ := Prod.mk.inj ran
      · exact .kept (by decide)
      · rename_i body held
        have same : { draft with body := some body } = draft := by rw [← held]
        rcases edited : (rule.editBody edit).on body with ⟨ended, left⟩
        cases editBody_edited edited with
        | kept => rw [same]; exact .kept (by decide)
        | failed label reason => rw [same]; exact .failed label reason
        | changed read attempted different => exact .body edits held read attempted different
    · obtain ⟨rfl, rfl⟩ := Prod.mk.inj ran
      exact .kept (by split <;> decide)

/-! ### Responses -/

inductive ResponseStep (now : Instant) (rule : Rule) (body : Body) :
    Except RuleError Outcome → Body → Prop where
  | kept {outcome : Outcome} (idle : outcome ≠ .changed) : ResponseStep now rule body (.ok outcome) body
  | failed (label reason : String) : ResponseStep now rule body (.error (.failed label reason)) body
  | changed {edit : Json.Edit} {text output : String} (edits : rule.responseEdit now = some edit)
      (read : body.text? = some text) (attempted : edit.attempt text = .ok output)
      (different : output ≠ text) : ResponseStep now rule body (.ok .changed) (body.replace output.toUTF8)

theorem onResponse_step {now : Instant} {rule : Rule} {body after : Body}
    {result : Except RuleError Outcome} (ran : (rule.onResponse now).on body = (result, after)) :
    ResponseStep now rule body result after := by
  unfold onResponse at ran
  split at ran
  · rename_i edit edits
    cases editBody_edited ran with
    | kept => exact .kept (by decide)
    | failed label reason => exact .failed label reason
    | changed read attempted different => exact .changed edits read attempted different
  · obtain ⟨rfl, rfl⟩ := Prod.mk.inj ran
    exact .kept (by split <;> decide)

/-! ### Failures -/

theorem isFatal_iff {error : RuleError} : error.isFatal = true ↔ ∃ name, error = .missingHeader name := by
  cases error <;> simp [RuleError.isFatal, RuleError.severity]

/-- A request on which a rule fails, or which it does not change, is the request as it was. -/
theorem onRequest_kept {rule : Rule} {draft after : RequestDraft} {result : Except RuleError Outcome}
    (ran : rule.onRequest.on draft = (result, after)) (idle : result ≠ .ok .changed) : after = draft := by
  cases onRequest_step ran with
  | kept | missing | failed => rfl
  | header | query | body => exact absurd rfl idle

theorem onResponse_kept {now : Instant} {rule : Rule} {body after : Body}
    {result : Except RuleError Outcome} (ran : (rule.onResponse now).on body = (result, after))
    (idle : result ≠ .ok .changed) : after = body := by
  cases onResponse_step ran with
  | kept | failed => rfl
  | changed => exact absurd rfl idle

/-- The one fatal failure: a required header that the request does not have. -/
theorem onRequest_fatal_iff {rule : Rule} {draft : RequestDraft} {error : RuleError} :
    (rule.onRequest.on draft).1 = .error error ∧ error.isFatal = true ↔
      ∃ name, rule = .validateHeader (some name) true ∧ draft.headers.has name = false ∧
        error = .missingHeader name := by
  constructor
  · rintro ⟨failed, fatal⟩
    rcases ran : rule.onRequest.on draft with ⟨result, after⟩
    obtain rfl : result = .error error := by rw [← failed, ran]
    cases onRequest_step ran with
    | missing required absent => exact ⟨_, required, absent, rfl⟩
    | failed label reason => exact absurd fatal (by simp [isFatal_iff])
  · rintro ⟨name, rfl, absent, rfl⟩
    refine ⟨?_, rfl⟩
    show ((requireHeader name).on draft).1 = _
    simp [on_requireHeader, absent]

theorem onResponse_not_fatal {now : Instant} {rule : Rule} {body after : Body} {error : RuleError}
    (ran : (rule.onResponse now).on body = (.error error, after)) : error.isFatal = false := by
  cases onResponse_step ran with
  | failed label reason => rfl

end Relay.Rule
