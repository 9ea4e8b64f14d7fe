import Relay.Proofs.Exchange.Course
import Relay.Proofs.Rule.Interleaving

/-!
# Exchanges under rules in another order

Two routes with the same rules for requests, in orders that agree on the rules for headers, on those for the
query and on those for the body, are the same to an exchange: both end it with one answer, or both forward one
request.
-/

namespace Relay
open Http

namespace Exchange

/-- The body is held for both orders or for neither, as it is held if any rule touches it. -/
theorem draftOf_of_interleaved {rules rules' : List Rule} (alike : Rule.Interleaved rules rules')
    (limit : Nat) (request : Request) : draftOf rules limit request = draftOf rules' limit request := by
  simp only [draftOf, heldBody_eq, Rule.any_touchesBody_of_interleaved alike]

theorem sentBy_of_interleaved {rules rules' : List Rule} (alike : Rule.Interleaved rules rules')
    (limit : Nat) (request : Request) : sentBy rules limit request = sentBy rules' limit request := by
  simp only [sentBy, draftOf_of_interleaved alike, Rule.fatalError_of_interleaved alike,
    Rule.draftAfter_of_interleaved alike]

theorem status_of_sentBy {rules : List Rule} {limit : Nat} {request : Request} {error : RuleError}
    (ended : sentBy rules limit request = .error error) : error.status = 400 := by
  obtain ⟨place, name, -, rfl⟩ := Rule.firstUnmet_of_fatalError (sentBy_eq_error.mp ended)
  rfl

end Exchange

namespace Gateway
open Exchange

/-- Rules for different parts of a request commute. Two routes whose rules are the same up to their order, and
in the same order as far as they are for one part, both answer a request with the same error, or both forward
the same request, and then the answers are the same too. -/
theorem orders_of_independent_rules_agree (table table' : Route.Table) (settings : GatewaySettings)
    (world : World) (forwarder : Forwarder) (request : Request) (route : Route) (rules rules' : List Rule)
    (alike : Rule.Interleaved rules rules')
    (found : table.resolve request.uri.path = some { route with requestRules := rules })
    (found' : table'.resolve request.uri.path = some { route with requestRules := rules' }) :
    let run := (ofTable table settings).handle world forwarder request
    let run' := (ofTable table' settings).handle world forwarder request
    (run.forwards = [] ∧ run'.forwards = [] ∧
      ∃ response, response.status = 400 ∧ run.result = some response ∧ run'.result = some response) ∨
    ∃ forward forward', run.forwards = [forward] ∧ run'.forwards = [forward'] ∧
      forward.request.uri = forward'.request.uri ∧ forward.request.headers = forward'.request.headers ∧
      forward.request.body = forward'.request.body ∧ forward.dispatch = forward'.dispatch ∧
      run.result = run'.result := by
  intro run run'
  let identified := { request with id := some (exchangeId settings world request) }
  have course : onward table settings world request = sentBy rules settings.maxBodyBytes identified := by
    simp only [onward, sent, identified, found]
  have course' : onward table' settings world request = sentBy rules settings.maxBodyBytes identified := by
    simp only [onward, sent, identified, found', sentBy_of_interleaved alike]
  cases ended : sentBy rules settings.maxBodyBytes identified with
  | error error =>
    obtain ⟨nothing, result⟩ := handle_of_error (course.trans ended) forwarder
    obtain ⟨nothing', result'⟩ := handle_of_error (course'.trans ended) forwarder
    exact .inl ⟨nothing, nothing', _, status_of_sentBy ended, result, result'⟩
  | ok request' =>
    obtain ⟨handed, result⟩ := handle_of_onward (course.trans ended) forwarder
    obtain ⟨handed', result'⟩ := handle_of_onward (course'.trans ended) forwarder
    have dispatched : Forward.dispatch ⟨⟨exchangeId settings world request,
          table.resolve request.uri.path⟩, request'⟩ =
        Forward.dispatch ⟨⟨exchangeId settings world request,
          table'.resolve request.uri.path⟩, request'⟩ := by
      rw [found, found']
      rfl
    refine .inr ⟨_, _, handed, handed', rfl, rfl, rfl, dispatched, ?_⟩
    rw [result, result', dispatched]
    simp only [answered, found, found']

/-- A body rule before or behind the rules for the header of its length. -/
theorem moved_body_rule_makes_no_difference :
    let length : Rule := .addHeader (some "Content-Length") (some "99")
    let require : Rule := .validateHeader (some "content-length") true
    let rename : Rule := .renameJsonField (some "a") (some "long")
    let rules : List Rule := [length, require] ++ [.unknown "Sign", rename]
    let rules' : List Rule := [.unknown "Sign", rename] ++ [length, require]
    let run := fun rules => (ofTable (.always { requestRules := rules }) {}).handle .still (fun _ => none)
      (.root .empty "\x7b\"a\":1\x7d".toUTF8)
    Rule.Interleaved rules rules' ∧
      ∃ forward forward', (run rules).forwards = [forward] ∧ (run rules').forwards = [forward'] ∧
        forward.request.headers = forward'.request.headers ∧
        forward'.request.headers.values .contentLength = ["10".toUTF8] := by
  intro length require rename rules rules' run
  have alike : Rule.Interleaved rules rules' :=
    ⟨List.perm_append_comm, fun part => by cases part <;> rfl⟩
  have passed : Rule.fatalError rules'
      (draftOf rules' 10485760 (.root .empty "\x7b\"a\":1\x7d".toUTF8)) = none := by decide +kernel
  have handed := forwards_always { requestRules := rules' } {} .still passed fun _ => none
  rcases orders_of_independent_rules_agree (.always { requestRules := rules })
      (.always { requestRules := rules' }) {} .still (fun _ => none)
      (.root .empty "\x7b\"a\":1\x7d".toUTF8) {} rules rules' alike rfl rfl with
    ⟨-, nothing, -⟩ | ⟨forward, forward', sent, sent', -, headers, -⟩
  · exact absurd (nothing.symm.trans handed) nofun
  · refine ⟨alike, forward, forward', sent, sent', headers, ?_⟩
    obtain rfl := List.singleton_inj.mp (sent'.symm.trans handed)
    decide +kernel

end Gateway
end Relay
