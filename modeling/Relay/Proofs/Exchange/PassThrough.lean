import Relay.Proofs.Exchange.Course
import Relay.Proofs.Route.Resolution

/-!
# Requests without a route, and observers

A request that no route fits goes on as it came, and so does the response to it. The log observes both and
changes neither: what it is asked to record makes no difference to any exchange.
-/

namespace Relay
open Http

theorem Http.Headers.erase_insert_self (headers : Headers) (name : HeaderName) (value : HeaderValue) :
    (headers.insert name value).erase name = headers.erase name := by
  simp [insert, append, erase, List.filter_append, List.filter_filter]

namespace Gateway
open Exchange

theorem onward_of_unmatched {table : Route.Table} {request : Request}
    (unmatched : table.resolve request.uri.path = none) (settings : GatewaySettings) (world : World) :
    onward table settings world request =
      .ok { request with id := some (exchangeId settings world request) } := by
  simp only [onward, sent, unmatched]

theorem answered_of_unmatched {table : Route.Table} {path : String} (unmatched : table.resolve path = none)
    (limit : Nat) (clock : Nat → Instant) (response : Response) :
    answered table limit clock path response = response := by
  simp only [answered, unmatched]

/-- A request that no route fits is forwarded as it came, and answered with the response that comes back, but
for the header of the identifier. Whatever the log records, every request is forwarded and answered alike. -/
theorem passes_unmatched_and_logs_inertly (table : Route.Table) (settings : GatewaySettings) (world : World)
    (forwarder : Forwarder) (request : Request) :
    let run := (ofTable table settings).handle world forwarder request
    ((∀ entry ∈ table.entries, entry.pattern.matches request.uri.path = false) →
      ∃ forward, run.forwards = [forward] ∧
        forward.request.method = request.method ∧ forward.request.uri = request.uri ∧
        forward.request.version = request.version ∧ forward.request.headers = request.headers ∧
        forward.request.body = request.body ∧
        (forwarder forward.dispatch = none → run.result = none) ∧
        ∀ response, forwarder forward.dispatch = some response →
          ∃ answer, run.result = some answer ∧ answer.status = response.status ∧
            answer.version = response.version ∧ answer.body = response.body ∧
            answer.headers.erase .correlationId = response.headers.erase .correlationId) ∧
    ∀ (bodies : Bool) (verbosity : Verbosity),
      let observed := (ofTable table { settings with logBodies := bodies }).handle
        { world with verbosity := verbosity } forwarder request
      observed.forwards = run.forwards ∧ observed.result = run.result := by
  intro run
  refine ⟨fun unmatched => ?_, fun bodies verbosity => ?_⟩
  · have unresolved : table.resolve request.uri.path = none := Route.Table.resolve_eq_none_iff.mpr unmatched
    have passed := onward_of_unmatched unresolved settings world
    obtain ⟨forwards, result⟩ := handle_of_onward passed forwarder
    refine ⟨_, forwards, rfl, rfl, rfl, rfl, rfl, fun silent => ?_, fun response reply => ?_⟩
    · rw [result, silent]
      rfl
    · refine ⟨_, result.trans (congrArg _ reply), ?_⟩
      simp only [answered_of_unmatched unresolved]
      exact ⟨rfl, rfl, rfl, Headers.erase_insert_self ..⟩
  · intro observed
    -- The stages behind the log are given neither the demand for bodies nor the verbosity.
    obtain ⟨forwards, result⟩ := handle_course table settings world forwarder request
    obtain ⟨forwards', result'⟩ := handle_course table { settings with logBodies := bodies }
      { world with verbosity := verbosity } forwarder request
    exact ⟨forwards'.trans forwards.symm, result'.trans result.symm⟩

theorem logged_bodies_pass_through :
    let route : Route := { id := "r", requestRules := [.removeJsonField (some "a")] }
    let table : Route.Table := ⟨[⟨⟨.exact, [.letter '/', .letter 'p']⟩, route⟩]⟩
    let headers := (Headers.empty.append .contentLength "9".toUTF8).append .correlationId "mine".toUTF8
    let request : Request := .root headers "\x7b\"a\" : 1\x7d".toUTF8
    let response : Response := { status := 404, headers := headers, body := ⟨#[255, 0]⟩ }
    let world : World := { World.still with verbosity := some .trace }
    let run := (ofTable table { logBodies := true }).handle world (fun _ => some response) request
    ∃ forward, run.forwards = [forward] ∧ forward.request.headers = headers ∧
      forward.request.body = request.body ∧
      ∃ answer, run.result = some answer ∧ answer.status = 404 ∧ answer.body = ⟨#[255, 0]⟩ ∧
        answer.headers.values .contentLength = ["9".toUTF8] := by
  intro route table headers request response world run
  obtain ⟨forward, forwards, -, -, -, sameHeaders, sameBody, -, reply⟩ :=
    (passes_unmatched_and_logs_inertly table { logBodies := true } world (fun _ => some response)
      request).1 (by decide +kernel)
  obtain ⟨answer, result, status, -, body, others⟩ := reply response rfl
  refine ⟨forward, forwards, sameHeaders, sameBody, answer, result, status, body, ?_⟩
  have other : HeaderName.contentLength ≠ .correlationId := by decide
  rw [← Headers.values_erase_of_ne other, others]
  decide +kernel

end Gateway
end Relay
