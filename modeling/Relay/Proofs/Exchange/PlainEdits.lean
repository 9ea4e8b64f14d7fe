import Relay.Proofs.Exchange.Course
import Relay.Proofs.Rule.Plain

/-!
# Bodies follow the plain edits

A gateway leaves of a body what the plain edits of its rules, one after another, make of the text. A body
that is no text, or that is larger than the limit, goes through as it is.
-/

namespace Relay
open Http

namespace Exchange

/-! ### Requests -/

theorem body_finishRequest (request : Request) (draft : RequestDraft) :
    (finishRequest request draft).body = (draft.body.map (·.bytes)).getD request.body := by
  unfold finishRequest
  split <;> simp [*]

theorem body_sentBy {rules : List Rule} {limit : Nat} {request request' : Request}
    (passed : sentBy rules limit request = .ok request') {text : String}
    (read : Text.ofBytes? request.body = some text) (small : request.body.size ≤ limit) :
    request'.body = (rules.foldl (fun text rule => rule.plainRequest text) text).toUTF8 := by
  obtain ⟨-, rfl⟩ := sentBy_eq_ok.mp passed
  rw [body_finishRequest]
  by_cases touched : rules.any (·.touchesBody) = true
  · have held : (draftOf rules limit request).body = some (.ofBytes request.body) := by
      rw [draftOf, heldBody_eq, if_pos ⟨touched, small⟩]
    obtain ⟨after, left, shown⟩ := Rule.text?_draftAfter rules held read
    rw [left]
    exact (Text.ofBytes?_eq_some.mp shown).symm
  · have untouched : ∀ rule ∈ rules, rule.touchesBody = false := by simpa using touched
    have free : (draftOf rules limit request).body = none := by
      rw [draftOf, heldBody_eq, if_neg fun both => touched both.1]
    rw [Rule.body_draftAfter (by simp [free]), free, Rule.foldl_plainRequest_of_untouched untouched]
    exact (Text.ofBytes?_eq_some.mp read).symm

theorem body_sentBy_of_unreadable {rules : List Rule} {limit : Nat} {request request' : Request}
    (passed : sentBy rules limit request = .ok request')
    (unreadable : Text.ofBytes? request.body = none ∨ limit < request.body.size) :
    request'.body = request.body := by
  obtain ⟨-, rfl⟩ := sentBy_eq_ok.mp passed
  have unread : ∀ body, (draftOf rules limit request).body = some body → body.text? = none := by
    intro body held
    simp only [draftOf, heldBody_eq] at held
    split at held
    · rename_i buffered
      obtain rfl := Option.some.inj held
      rcases unreadable with broken | large
      · exact broken
      · exact absurd buffered.2 (Nat.not_le.mpr large)
    · cases held
  rw [body_finishRequest, Rule.body_draftAfter unread]
  rcases body_draftOf rules limit request with none | some
  · rw [none]
    rfl
  · rw [some]
    rfl

/-! ### Responses -/

theorem body_answeredBy (rules : List Rule) {limit : Nat} (clock : Nat → Instant) {response : Response}
    {text : String} (read : Text.ofBytes? response.body = some text) (small : response.body.size ≤ limit) :
    (answeredBy rules limit clock response).body =
      (rules.zipIdx.foldl (fun text placed => placed.1.plainResponse (clock placed.2) text) text).toUTF8 := by
  have ruled : ¬ (limit < response.body.size ∨ (Text.ofBytes? response.body).isNone) := by
    simp [read, Nat.not_lt.mpr small]
  have shown := Rule.text?_bodyAfter clock 0 rules (show (Body.ofBytes response.body).text? = _ from read)
  rw [answeredBy, if_neg ruled]
  exact (Text.ofBytes?_eq_some.mp shown).symm

theorem answeredBy_of_unreadable (rules : List Rule) {limit : Nat} (clock : Nat → Instant)
    {response : Response} (unreadable : Text.ofBytes? response.body = none ∨ limit < response.body.size) :
    answeredBy rules limit clock response = response := by
  rw [answeredBy, if_pos]
  rcases unreadable with broken | large
  · exact .inr (by simp [broken])
  · exact .inl large

end Exchange

namespace Gateway
open Exchange

/-- The body that is forwarded, and the one that is answered with, are what the plain edits of the rules
make of the text that came, one after another. Bodies that are no texts and bodies larger than the limit
stay as they are. -/
theorem bodies_follow_plain_edits (table : Route.Table) (settings : GatewaySettings) (world : World)
    (forwarder : Forwarder) (request : Request) :
    let run := (ofTable table settings).handle world forwarder request
    let requestRules := table.requestRules request.uri.path
    let responseRules := table.responseRules request.uri.path
    ∀ forward, run.forwards = [forward] →
      (∀ text, Text.ofBytes? request.body = some text → request.body.size ≤ settings.maxBodyBytes →
        forward.request.body =
          (requestRules.foldl (fun text rule => rule.plainRequest text) text).toUTF8) ∧
      (Text.ofBytes? request.body = none ∨ settings.maxBodyBytes < request.body.size →
        forward.request.body = request.body) ∧
      ∀ response, forwarder forward.dispatch = some response →
        ∃ answer, run.result = some answer ∧
          (∀ text, Text.ofBytes? response.body = some text →
            response.body.size ≤ settings.maxBodyBytes →
              answer.body = (responseRules.zipIdx.foldl (fun text placed =>
                placed.1.plainResponse (world.clock 3 placed.2) text) text).toUTF8) ∧
          (Text.ofBytes? response.body = none ∨ settings.maxBodyBytes < response.body.size →
            answer.body = response.body) := by
  intro run requestRules responseRules forward handed
  obtain ⟨request', passed⟩ := onward_of_forwards handed
  obtain ⟨forwards, result⟩ := handle_of_onward passed forwarder
  obtain rfl := List.singleton_inj.mp (handed.symm.trans forwards)
  rw [onward, sent_eq_sentBy] at passed
  refine ⟨fun text read small => body_sentBy passed read small, fun unreadable => ?_,
    fun response reply => ?_⟩
  · show request'.body = _
    rw [body_sentBy_of_unreadable passed unreadable]
  simp only [reply, Option.map_some, answered_eq_answeredBy] at result
  refine ⟨_, result, fun text read small => body_answeredBy responseRules _ read small,
    fun unreadable => ?_⟩
  show (answeredBy responseRules _ _ response).body = _
  rw [answeredBy_of_unreadable responseRules _ unreadable]

theorem renamed_and_replaced :
    let route : Route := {
      requestRules := [.renameJsonField (some "a") (some "c")]
      responseRules := [.modifyJsonValue (some "a") none (some "y")] }
    let body := "\x7b\"a\":\"x\"\x7d".toUTF8
    let run := (ofTable (.always route) {}).handle .still
      (fun _ => some { status := 200, headers := .empty, body := body }) (.root .empty body)
    ∃ forward answer, run.forwards = [forward] ∧ forward.request.body = "\x7b\"c\":\"x\"\x7d".toUTF8 ∧
      run.result = some answer ∧ answer.body = "\x7b\"a\":\"y\"\x7d".toUTF8 := by
  intro route body run
  have passed : Rule.fatalError route.requestRules
      (draftOf route.requestRules 10485760 (.root .empty body)) = none := by decide +kernel
  have handed := forwards_always route {} .still passed
    fun _ => some { status := 200, headers := .empty, body := body }
  have read : Text.ofBytes? body = some "\x7b\"a\":\"x\"\x7d" := Text.ofBytes?_eq_some.mpr rfl
  have small : body.size ≤ 10485760 := by decide +kernel
  obtain ⟨request, -, response⟩ := bodies_follow_plain_edits (.always route) {} .still _ _ _ handed
  obtain ⟨answer, result, body, -⟩ := response _ rfl
  refine ⟨_, answer, handed, (request _ read small).trans ?_, result, (body _ read small).trans ?_⟩
  · exact congrArg String.toUTF8 (by decide +kernel)
  · exact congrArg String.toUTF8 (by decide +kernel)

end Gateway
end Relay
