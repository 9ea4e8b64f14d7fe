import Relay.Proofs.Exchange.Deletion
import Relay.Proofs.Exchange.RequiredHeader
import Relay.Proofs.Rule.Interleaving
import Relay.Proofs.Rule.QueryParameter

/-!
# Bodies in memory

The body of a request is taken into memory if some rule of its route may touch it. Nobody can tell: a gateway that
takes every body of a matched request into memory ends the same exchanges, forwards the same requests and gives the
same answers (`buffering_is_invisible`).
-/

namespace Relay
open Http

namespace Rule

/-- The target that a rule leaves. -/
def withParameter (uri : Uri) : Rule → Uri
  | modifyQueryParam (some name) (some value) =>
    (uri.withQuery (uri.parameters.set name value).render).toOption.getD uri
  | _ => uri

theorem uri_onRequest_eq_withParameter (rule : Rule) (draft : RequestDraft) :
    (rule.onRequest.on draft).2.uri = withParameter draft.uri rule := by
  by_cases query : rule.part? = some .query
  · cases rule with
    | modifyQueryParam name value =>
      cases name with
      | none => rfl
      | some name =>
        cases value with
        | none => rfl
        | some value =>
          change ((setQueryParam _ name value).on draft).2.uri = _
          rw [on_setQueryParam, withParameter, ← Uri.parameters]
          split <;> simp [*, Except.toOption]
    | _ => cases query
  · rw [uri_onRequest_of_part query]
    cases rule with
    | modifyQueryParam => exact absurd rfl query
    | _ => rfl

theorem uri_draftAfter_eq_withParameter (rules : List Rule) (draft : RequestDraft) :
    (draftAfter rules draft).uri = rules.foldl withParameter draft.uri := by
  induction rules generalizing draft with
  | nil => rfl
  | cons rule rules ih => rw [draftAfter_cons, ih, uri_onRequest_eq_withParameter, List.foldl_cons]

end Rule

namespace Exchange

/-- The parts of a request that rules work on, with its body if that is not too large. -/
def eagerDraft (limit : Nat) (request : Request) : RequestDraft :=
  ⟨request.uri, request.headers, (Body.collect request.body limit).toOption⟩

/-- The stage for requests without a choice: the body of every matched request is taken into memory, unless it is
too large. -/
def eagerStage (table : Route.Table) (limit : Nat) : Stage where
  name := "request_transform"
  process _ next context request := do
    match table.resolve request.uri.path with
    | none =>
      Run.report (.noRoute context.correlationId request.uri.path)
      next context request
    | some route =>
      Run.count (.routeMatched route.id)
      let context := { context with route := some route }
      let scope : RuleScope := ⟨context.correlationId, route.id, .request⟩
      Run.report (.routeMatched context.correlationId route.id route.requestRules.length)
      if let .error large := Body.collect request.body limit then
        Run.report (.requestTooLarge context.correlationId route.id large.size large.limit)
      match ← runRequestRules scope route.requestRules (eagerDraft limit request) with
      | .ok draft => next context (finishRequest request draft)
      | .error error =>
        Run.count (.requestAborted route.id)
        return (context, Response.ofError error.status error.code error.message)

theorem draftOf_eq (rules : List Rule) (limit : Nat) (request : Request) :
    draftOf rules limit request =
      if rules.any (·.touchesBody) = true then eagerDraft limit request
      else { eagerDraft limit request with body := none } := by
  unfold draftOf heldBody bufferFor eagerDraft
  by_cases touched : rules.any (·.touchesBody) = true
  · rw [if_pos touched, if_pos touched]
    cases Body.collect request.body limit <;> rfl
  · rw [if_neg touched, if_neg touched]

theorem body_eagerDraft (limit : Nat) (request : Request) :
    (eagerDraft limit request).body = none ∨
      (eagerDraft limit request).body = some (.ofBytes request.body) := by
  unfold eagerDraft Body.collect
  split
  · exact .inl rfl
  · exact .inr rfl

theorem fatalError_eagerDraft (rules : List Rule) (limit : Nat) (request : Request) :
    Rule.fatalError rules (eagerDraft limit request) = Rule.fatalError rules (draftOf rules limit request) := by
  have alike : (eagerDraft limit request).headers = (draftOf rules limit request).headers := rfl
  rw [Rule.fatalError_onlyFor rules alike, ← Rule.fatalError_onlyFor rules rfl]

theorem finishRequest_eagerDraft (rules : List Rule) (limit : Nat) (request : Request) :
    finishRequest request (Rule.draftAfter rules (eagerDraft limit request)) =
      finishRequest request (Rule.draftAfter rules (draftOf rules limit request)) := by
  rw [draftOf_eq]
  split
  · rfl
  · rename_i idle
    have untouched : ∀ rule ∈ rules, rule.touchesBody = false := by simpa using idle
    exact (finishRequest_of_untouched untouched (body_eagerDraft limit request)).symm

theorem eagerStage_course (table : Route.Table) (limit : Nat) (around : Surroundings) (next : Handler)
    (context : Context) (request : Request) (fresh : context.route = none) :
    let run := (eagerStage table limit).process around next context request
    let context := { context with route := table.resolve request.uri.path }
    run.forwards = (match sent table limit request with
      | .ok onward => (next context onward).forwards
      | .error _ => []) ∧
    run.result = match sent table limit request with
      | .ok onward => (next context onward).result
      | .error error => some (context, Response.ofError error.status error.code error.message) := by
  unfold sent sentBy
  cases found : table.resolve request.uri.path with
  | none =>
    have same : { context with route := none } = context := by rw [← fresh]
    simp [eagerStage, found, same]
  | some route =>
    cases collected : Body.collect request.body limit <;>
      cases ended : Rule.fatalError route.requestRules (draftOf route.requestRules limit request) <;>
        simp [eagerStage, found, collected, result_runRequestRules, forwards_runRequestRules,
          fatalError_eagerDraft, ended, finishRequest_eagerDraft]

theorem sentBy_of_large {rules : List Rule} {limit : Nat} {request request' : Request}
    (passed : sentBy rules limit request = .ok request') (large : limit < request.body.size) :
    request'.body = request.body ∧ request'.headers = Rule.withAdded rules request.headers ∧
      request'.uri = rules.foldl Rule.withParameter request.uri := by
  obtain ⟨-, rfl⟩ := sentBy_eq_ok.mp passed
  have unheld : (draftOf rules limit request).body = none := by
    rw [draftOf, heldBody_eq, if_neg fun held => absurd held.2 (Nat.not_le.mpr large)]
  have kept : (Rule.draftAfter rules (draftOf rules limit request)).body = none := by
    rw [Rule.body_draftAfter fun body held => absurd (held.symm.trans unheld) (Option.some_ne_none body), unheld]
  rw [finishRequest, kept]
  exact ⟨rfl, Rule.headers_draftAfter .., Rule.uri_draftAfter_eq_withParameter ..⟩

end Exchange

namespace Gateway
open Exchange

/-- The gateway that takes the body of every matched request into memory. -/
def eager (table : Route.Table) (settings : GatewaySettings) : Gateway where
  table := table
  pipeline := Pipeline.empty
    |>.addBefore (identityStage settings.trustIncomingIds)
    |>.addBefore (loggingStage settings.logBodies)
    |>.addBefore (eagerStage table settings.maxBodyBytes)
    |>.addAround (responseStage table settings.maxBodyBytes)

theorem eager_course (table : Route.Table) (settings : GatewaySettings) (world : World)
    (forwarder : Forwarder) (request : Request) :
    let run := (eager table settings).handle world forwarder request
    let run' := (ofTable table settings).handle world forwarder request
    run.forwards = run'.forwards ∧ run.result = run'.result := by
  intro run run'
  let next : Handler := (responseStage table settings.maxBodyBytes).process (world.at 3) forwarder.handler
  let context : Context := ⟨exchangeId settings world request, none⟩
  let known : Request := { request with id := some (exchangeId settings world request) }
  obtain ⟨forwards, result⟩ := entry_course settings world
    ((eagerStage table settings.maxBodyBytes).process (world.at 2) next) request
  obtain ⟨forwards', result'⟩ := handle_course table settings world forwarder request
  obtain ⟨handed, ended⟩ := eagerStage_course table settings.maxBodyBytes (world.at 2) next context known rfl
  obtain ⟨handed', ended'⟩ := requestStage_course table settings.maxBodyBytes (world.at 2) next context known rfl
  exact ⟨forwards.trans (handed.trans (forwards'.trans handed').symm),
    result.trans ((congrArg _ (ended.trans ended'.symm)).trans result'.symm)⟩

/-- A gateway that takes the body of every matched request into memory forwards the same and answers the same. The
rules that are not for bodies have no need of one: they do the same whatever it is, and leave it alone. A body that
is too large goes on byte for byte, and the rules for headers and for the query do their work next to it. -/
theorem buffering_is_invisible (table : Route.Table) (settings : GatewaySettings) (world : World)
    (forwarder : Forwarder) (request : Request) :
    let run := (ofTable table settings).handle world forwarder request
    let run' := (eager table settings).handle world forwarder request
    let rules := table.requestRules request.uri.path
    run'.forwards = run.forwards ∧ run'.result = run.result ∧
      (∀ rule : Rule, rule.touchesBody = false →
        (∀ (draft : RequestDraft) (body : Option Body), rule.onRequest.on { draft with body := body } =
          ((rule.onRequest.on draft).1, { (rule.onRequest.on draft).2 with body := body })) ∧
        ∀ (now : Instant) (body body' : Body),
          (rule.onResponse now).on body' = (((rule.onResponse now).on body).1, body')) ∧
      (settings.maxBodyBytes < request.body.size →
        (run.forwards = [] ↔ ∃ place name, Rule.Unmet rules request.headers place name) ∧
        ∀ forward ∈ run.forwards, forward.request.body = request.body ∧
          forward.request.headers = Rule.withAdded rules request.headers ∧
          forward.request.uri = rules.foldl Rule.withParameter request.uri) := by
  intro run run' rules
  obtain ⟨forwards, result⟩ := eager_course table settings world forwarder request
  refine ⟨forwards, result, fun rule untouched => ⟨?_, ?_⟩, fun large => ⟨?_, ?_⟩⟩
  · exact Rule.onRequest_withBody untouched
  · exact Rule.onResponse_withBody untouched
  · simp only [run, forwards_eq_nil_iff, onward, sent_eq_sentBy]
    exact sentBy_error_iff
  · intro forward handed
    obtain ⟨request', passed, rfl⟩ := of_mem_forwards handed
    rw [onward, sent_eq_sentBy] at passed
    obtain ⟨body, headers, uri⟩ := sentBy_of_large passed large
    exact ⟨body, headers, uri⟩

/-- A body that no rule can have, next to rules that do not want it. -/
theorem oversized_body_goes_through :
    let rules : List Rule := [.renameJsonField (some "a") (some "b"), .addHeader (some "X-Key") (some "1"),
      .injectMetadata (some "$") [], .modifyQueryParam (some "q") (some "&"), .unknown "Sign",
      .validateHeader (some "x-key") true]
    let run := (ofTable (.always { requestRules := rules }) { maxBodyBytes := 3 }).handle .still (fun _ => none)
      (.root .empty "\x7b\"a\":1\x7d".toUTF8)
    let run' := (eager (.always { requestRules := rules }) { maxBodyBytes := 3 }).handle .still (fun _ => none)
      (.root .empty "\x7b\"a\":1\x7d".toUTF8)
    ∃ forward, run.forwards = [forward] ∧ run'.forwards = [forward] ∧
      forward.request.body = "\x7b\"a\":1\x7d".toUTF8 ∧ forward.request.uri.query = some "q=%26" ∧
      forward.request.headers.values .contentLength = [] ∧
      forward.request.headers.has "x-key" = true := by
  intro rules run run'
  have passed : Rule.fatalError rules (draftOf rules 3 (.root .empty "\x7b\"a\":1\x7d".toUTF8)) = none := by
    decide +kernel
  have handed := forwards_always { requestRules := rules } { maxBodyBytes := 3 } .still passed fun _ => none
  obtain ⟨forwards, -, -, large⟩ := buffering_is_invisible (.always { requestRules := rules })
    { maxBodyBytes := 3 } .still (fun _ => none) (.root .empty "\x7b\"a\":1\x7d".toUTF8)
  obtain ⟨-, sent⟩ := large (by decide +kernel)
  obtain ⟨body, headers, uri⟩ := sent _ (handed ▸ List.mem_singleton_self _)
  refine ⟨_, handed, forwards.trans handed, body, ?_, ?_, ?_⟩
  · rw [uri]
    decide +kernel
  · rw [headers]
    decide +kernel
  · rw [headers]
    decide +kernel

end Gateway
end Relay
