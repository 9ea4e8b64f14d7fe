import Relay.Proofs.Rule.Deletion

/-!
# Bodies that rules replace

A rule leaves a body as it is or puts other bytes in its place, and a body once replaced counts as replaced
for good. So the bytes between the rules decide whether the body at the end is the one that came.
-/

namespace Relay.Rule
open Http

section Lists

variable {σ : Type} {body : σ → Option Body} {step : Nat → Rule → σ → Except RuleError Outcome × σ}

/-- Each step leaves the body of the message or replaces its bytes by other ones. -/
def Replaces (body : σ → Option Body) (step : Nat → Rule → σ → Except RuleError Outcome × σ) : Prop :=
  ∀ place rule message,
    body (step place rule message).2 = body message ∨
      (body (step place rule message).2).map (·.bytes) ≠ (body message).map (·.bytes) ∧
        ∃ after, body (step place rule message).2 = some after ∧ after.replaced = true

theorem body_messageAfter_of_unchanged (replaces : Replaces body step) {place : Nat} {rules : List Rule}
    {message : σ}
    (unchanged : ∀ i, (body (messageAfter step place (rules.take (i + 1)) message)).map (·.bytes) =
      (body (messageAfter step place (rules.take i) message)).map (·.bytes)) :
    body (messageAfter step place rules message) = body message := by
  induction rules generalizing place message with
  | nil => rfl
  | cons rule rules ih =>
    have here := unchanged 0
    rcases replaces place rule message with same | ⟨changed, -⟩
    · exact (ih fun i => unchanged (i + 1)).trans same
    · exact absurd here changed

/-- A body once replaced counts as replaced, also when its first bytes are restored. -/
theorem replaced_messageAfter (replaces : Replaces body step) (place : Nat) (rules : List Rule)
    {message : σ} {held : Body} (holds : body message = some held) (replaced : held.replaced = true) :
    ∃ after, body (messageAfter step place rules message) = some after ∧ after.replaced = true := by
  induction rules generalizing place message held with
  | nil => exact ⟨held, holds, replaced⟩
  | cons rule rules ih =>
    rcases replaces place rule message with same | ⟨-, after, holds', replaced'⟩
    · exact ih (place + 1) (same.trans holds) replaced
    · exact ih (place + 1) holds' replaced'

theorem replaced_messageAfter_of_changed (replaces : Replaces body step) {place : Nat} {rules : List Rule}
    {message : σ} {i : Nat}
    (changed : (body (messageAfter step place (rules.take (i + 1)) message)).map (·.bytes) ≠
      (body (messageAfter step place (rules.take i) message)).map (·.bytes)) :
    ∃ after, body (messageAfter step place rules message) = some after ∧ after.replaced = true := by
  induction rules generalizing place message i with
  | nil => exact absurd (by rw [List.take_nil, List.take_nil]) changed
  | cons rule rules ih =>
    cases i with
    | zero =>
      rcases replaces place rule message with same | ⟨-, after, holds, replaced⟩
      · have kept : (body (step place rule message).2).map (·.bytes) = (body message).map (·.bytes) := by
          rw [same]
        exact absurd kept changed
      · exact replaced_messageAfter replaces (place + 1) rules holds replaced
    | succ i => exact ih changed

end Lists

theorem bytes_replace_ne {body : Body} {text output : String} (read : body.text? = some text)
    (different : output ≠ text) : (body.replace output.toUTF8).bytes ≠ body.bytes := by
  intro same
  have again : text.toUTF8 = body.bytes := Text.ofBytes?_eq_some.mp read
  exact different (String.toByteArray_inj.mp (same.trans again.symm))

theorem replaces_requestStep : Replaces RequestDraft.body requestStep := by
  intro place rule draft
  show (rule.onRequest.on draft).2.body = draft.body ∨ _
  rcases ran : rule.onRequest.on draft with ⟨result, left⟩
  cases onRequest_step ran with
  | kept | missing | failed | header | query => exact .inl rfl
  | body edits held read attempted different =>
    refine .inr ⟨?_, _, by rw [requestStep, ran], rfl⟩
    rw [requestStep, ran, held]
    intro same
    exact bytes_replace_ne read different (Option.some.inj same)

theorem replaces_responseStep (clock : Nat → Instant) : Replaces some (responseStep clock) := by
  intro place rule body
  rcases ran : (rule.onResponse (clock place)).on body with ⟨result, left⟩
  rw [responseStep, ran]
  cases onResponse_step ran with
  | kept | failed => exact .inl rfl
  | changed edits read attempted different =>
    refine .inr ⟨fun same => ?_, _, rfl, rfl⟩
    exact bytes_replace_ne read different (Option.some.inj same)

/-! ### Bodies of responses -/

variable {clock : Nat → Instant} {rules : List Rule} {body : Body}

theorem bodyAfter_of_unchanged
    (unchanged : ∀ i, (bodyAfter clock 0 (rules.take (i + 1)) body).bytes =
      (bodyAfter clock 0 (rules.take i) body).bytes) :
    bodyAfter clock 0 rules body = body := by
  have idle : ∀ i, (some (messageAfter (responseStep clock) 0 (rules.take (i + 1)) body)).map (·.bytes) =
      (some (messageAfter (responseStep clock) 0 (rules.take i) body)).map (·.bytes) := by
    intro i
    rw [messageAfter_onResponse, messageAfter_onResponse]
    exact congrArg some (unchanged i)
  have same := body_messageAfter_of_unchanged (replaces_responseStep clock) idle
  rw [messageAfter_onResponse] at same
  exact Option.some.inj same

theorem replaced_bodyAfter_of_changed {i : Nat}
    (changed : (bodyAfter clock 0 (rules.take (i + 1)) body).bytes ≠
      (bodyAfter clock 0 (rules.take i) body).bytes) :
    (bodyAfter clock 0 rules body).replaced = true := by
  have differs : (some (messageAfter (responseStep clock) 0 (rules.take (i + 1)) body)).map (·.bytes) ≠
      (some (messageAfter (responseStep clock) 0 (rules.take i) body)).map (·.bytes) := by
    rw [messageAfter_onResponse, messageAfter_onResponse]
    exact fun same => changed (Option.some.inj same)
  obtain ⟨after, left, replaced⟩ := replaced_messageAfter_of_changed (replaces_responseStep clock) differs
  rw [messageAfter_onResponse] at left
  rwa [Option.some.inj left]

theorem sized_bodyAfter (clock : Nat → Instant) (place : Nat) (rules : List Rule) (sized : body.Sized) :
    (bodyAfter clock place rules body).Sized := by
  induction rules generalizing place body with
  | nil => exact sized
  | cons rule rules ih =>
    rcases ran : (rule.onResponse (clock place)).on body with ⟨result, left⟩
    rw [bodyAfter, ran]
    cases onResponse_step ran with
    | kept | failed => exact ih (place + 1) sized
    | changed => exact ih (place + 1) (Body.sized_replace body _)

/-- Rules leave a body that is no text, and a text that is no document. -/
theorem bodyAfter_of_unreadable (clock : Nat → Instant) (place : Nat) (rules : List Rule)
    (unreadable : ∀ text, body.text? = some text → ∃ error, Json.parse text = .error error) :
    bodyAfter clock place rules body = body := by
  induction rules generalizing place with
  | nil => rfl
  | cons rule rules ih =>
    rcases ran : (rule.onResponse (clock place)).on body with ⟨result, left⟩
    rw [bodyAfter, ran]
    cases onResponse_step ran with
    | kept | failed => exact ih (place + 1)
    | changed edits read attempted different =>
      obtain ⟨error, failed⟩ := unreadable _ read
      unfold Json.Edit.attempt at attempted
      rw [failed] at attempted
      cases attempted

end Relay.Rule
