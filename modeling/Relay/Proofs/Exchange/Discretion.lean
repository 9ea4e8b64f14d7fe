import Relay.Proofs.Exchange.Report
import Relay.Proofs.Rule.HeaderNames

/-!
# What the log does not tell

Two exchanges side by side, whose requests differ in the values of their headers and perhaps in their
bodies. `log_hides_values` says when the reports on them are the same.
-/

namespace Relay
open Http

namespace Exchange

variable {request : Request} {headers : Headers} {body : ByteArray}

/-- Rules that cannot tell the two bodies apart: they are the same, or no rule looks. -/
def Blind (rules : List Rule) (bytes other : ByteArray) : Prop :=
  other = bytes ∨ ∀ rule ∈ rules, rule.touchesBody = false

theorem bufferFor_of_blind {rules : List Rule} {bytes other : ByteArray} (blind : Blind rules bytes other)
    (limit : Nat) : bufferFor rules other limit = bufferFor rules bytes limit := by
  rcases blind with rfl | untouched
  · rfl
  · have none : rules.any (·.touchesBody) = false := by simpa using untouched
    simp [bufferFor, none]

theorem draftOf_of_blind {rules : List Rule} (blind : Blind rules request.body body) (limit : Nat) :
    draftOf rules limit { request with headers := headers, body := body } =
      { draftOf rules limit request with headers := headers } := by
  simp only [draftOf, heldBody, bufferFor_of_blind blind]

/-! ### The events of a request -/

theorem events_runRequestRules_withHeaders (scope : RuleScope) (rules : List Rule) {draft : RequestDraft}
    (same : draft.headers.SameNames headers) :
    (runRequestRules scope rules { draft with headers := headers }).events =
      (runRequestRules scope rules draft).events := by
  induction rules generalizing draft headers with
  | nil => rfl
  | cons rule rules ih =>
    have later := ih (Rule.sameNames_onRequest rule same)
    rw [events_runRequestRules_cons, events_runRequestRules_cons, Rule.onRequest_withHeaders rule same, later]
    rfl

theorem routing_of_blind {table : Route.Table} (limit : Nat) (id : Uuid)
    (same : request.headers.SameNames headers)
    (blind : ∀ route, table.resolve request.uri.path = some route →
      Blind route.requestRules request.body body) :
    routing table limit id { request with headers := headers, body := body } =
      routing table limit id request := by
  unfold routing bodyWarning
  cases found : table.resolve request.uri.path with
  | none => rfl
  | some route =>
    have draft : (draftOf route.requestRules limit request).headers.SameNames headers := same
    simp only [bufferFor_of_blind (blind route found), draftOf_of_blind (blind route found),
      events_runRequestRules_withHeaders _ _ draft]

theorem arrival_of_alike {shown : Bool} (id : Uuid) (same : request.headers.SameNames headers)
    (size : body.size = request.body.size) (alike : shown = true → body = request.body) :
    arrival shown id { request with headers := headers, body := body } = arrival shown id request := by
  unfold arrival
  have names : headers.names = request.headers.names := same.symm
  simp only [names, size]
  cases shown with
  | false => rfl
  | true => rw [alike rfl]

end Exchange

namespace Gateway
open Exchange

variable {table : Route.Table} {settings : GatewaySettings} {world : World} {request : Request}
  {headers : Headers} {body : ByteArray}

theorem onward_eq_error_iff_of_blind (same : request.headers.SameNames headers)
    (blind : ∀ route, table.resolve request.uri.path = some route →
      Blind route.requestRules request.body body) {error : RuleError} :
    onward table settings world { request with headers := headers, body := body } = .error error ↔
      onward table settings world request = .error error := by
  unfold onward sent
  cases found : table.resolve request.uri.path with
  | none => exact ⟨nofun, nofun⟩
  | some route =>
    have draft : (draftOf route.requestRules settings.maxBodyBytes request).headers.SameNames headers := same
    rw [sentBy_eq_error, sentBy_eq_error]
    show Rule.fatalError _ (draftOf _ _ { request with headers := headers, body := body }) = _ ↔
      Rule.fatalError _ (draftOf _ _ request) = _
    rw [draftOf_of_blind (blind route found), Rule.fatalError_withHeaders _ draft]

/-- The report on an exchange does not depend on the values of the headers that its request brings, nor on
the bytes of its body if no rule touches them and bodies are not shown. -/
theorem log_hides_values (table : Route.Table) (settings : GatewaySettings) (world : World)
    (forwarder : Forwarder) (request : Request) (headers : Headers) (body : ByteArray)
    (untrusted : settings.trustIncomingIds = false) (same : request.headers.SameNames headers)
    (alike : body = request.body ∨
      body.size = request.body.size ∧
        (settings.logBodies = false ∨ world.verbosity.records .trace = false) ∧
        ∀ route, table.resolve request.uri.path = some route →
          ∀ rule ∈ route.requestRules, rule.touchesBody = false) :
    let run := (ofTable table settings).handle world forwarder request
    let run' := (ofTable table settings).handle world forwarder
      { request with headers := headers, body := body }
    (∀ forward ∈ run.forwards, ∀ forward' ∈ run'.forwards,
      forwarder forward.dispatch = forwarder forward'.dispatch) → run.events = run'.events := by
  intro run run' answer
  let other : Request := { request with headers := headers, body := body }
  have blind : ∀ route, table.resolve request.uri.path = some route →
      Blind route.requestRules request.body body := by
    intro route found
    exact alike.imp_right fun ⟨_, _, untouched⟩ => untouched route found
  -- no identifier is read from the headers, so both exchanges have the fresh one
  have ids : exchangeId settings world other = exchangeId settings world request := by
    simp [exchangeId, chosenId, untrusted]
  have routed := routing_of_blind settings.maxBodyBytes (exchangeId settings world request) same blind
  have arrived : arrival (showsBodies settings.logBodies world.verbosity)
      (exchangeId settings world request) other = arrival (showsBodies settings.logBodies world.verbosity)
        (exchangeId settings world request) request := by
    refine arrival_of_alike _ same ?_ fun shown => ?_
    · rcases alike with rfl | ⟨size, -⟩
      · rfl
      · exact size
    · rcases alike with rfl | ⟨-, hidden, -⟩
      · rfl
      · simp [showsBodies] at shown
        simp [shown] at hidden
  cases course : onward table settings world request with
  | error error =>
    have course' := (onward_eq_error_iff_of_blind same blind).mpr course
    show (handle ..).events = (handle _ _ _ other).events
    rw [events_handle_of_error course, events_handle_of_error course', ids, arrived]
    exact congrArg (_ ++ · ++ _) routed.symm
  | ok sent =>
    obtain ⟨sent', course'⟩ : ∃ sent', onward table settings world other = .ok sent' := by
      cases ended : onward table settings world other with
      | ok sent' => exact ⟨sent', rfl⟩
      | error error => cases course.symm.trans ((onward_eq_error_iff_of_blind same blind).mp ended)
    have answers := answer _ (mem_forwards_of_onward course forwarder) _
      (mem_forwards_of_onward course' forwarder)
    show (handle ..).events = (handle _ _ _ other).events
    rw [events_handle_of_onward course, events_handle_of_onward course', answers, ids, arrived]
    exact congrArg (_ ++ · ++ _) routed.symm

theorem secrets_are_not_logged :
    let token : HeaderName := ⟨"authorization", by decide, by decide⟩
    let request := fun secret text : String =>
      Http.Request.root (Headers.empty.append token secret.toUTF8) text.toUTF8
    let edits : List Rule := [.validateHeader (some "Authorization") true,
      .addHeader (some "authorization") (some "c"), .removeJsonField (some "a")]
    let world : World := { World.still with verbosity := some .trace }
    let events := fun (rules : List Rule) (shown : Bool) (request : Request) =>
      ((ofTable (.always { requestRules := rules }) { logBodies := shown }).handle world (fun _ => none)
        request).events
    events edits true (request "a" "{}") = events edits true (request "b" "{}") ∧
      events (edits.take 2) false (request "a" "x") = events (edits.take 2) false (request "b" "y") := by
  intro token request edits world events
  have same : ∀ text text', (request "a" text).headers.SameNames (request "b" text').headers :=
    fun _ _ => rfl
  have untouched : ∀ rule ∈ edits.take 2, rule.touchesBody = false := by decide
  constructor
  · exact log_hides_values (.always { requestRules := edits }) { logBodies := true } world (fun _ => none)
      (request "a" "{}") _ (request "b" "{}").body rfl (same _ "") (.inl rfl)
      fun _ _ _ _ => rfl
  · refine log_hides_values (.always { requestRules := edits.take 2 }) {} world (fun _ => none)
      (request "a" "x") _ (request "b" "y").body rfl (same _ "") (.inr ⟨by decide +kernel, .inl rfl, ?_⟩)
      fun _ _ _ _ => rfl
    intro route found
    obtain rfl := Option.some.inj found
    exact untouched

end Gateway
end Relay
