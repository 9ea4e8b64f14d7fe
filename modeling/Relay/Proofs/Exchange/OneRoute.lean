import Relay.Proofs.Exchange.Correlation
import Relay.Proofs.Route.Resolution

/-!
# One route for both ways

The rules of a request change its query at most, never its method, its path or what stands before them. So
the response meets the route that its request has met, and the forwarder is told of no other.
-/

namespace Relay
open Http

namespace Exchange

theorem method_finishRequest (request : Request) (draft : RequestDraft) :
    (finishRequest request draft).method = request.method := by
  unfold finishRequest
  split <;> rfl

/-- Of the target of a request, rules leave all but the query. -/
theorem target_sent {table : Route.Table} {limit : Nat} {request request' : Request}
    (passed : sent table limit request = .ok request') :
    request'.method = request.method ∧ request'.uri.scheme = request.uri.scheme ∧
      request'.uri.authority = request.uri.authority ∧ request'.uri.path = request.uri.path := by
  rw [sent_eq_sentBy] at passed
  obtain ⟨-, rfl⟩ := sentBy_eq_ok.mp passed
  rw [method_finishRequest, uri_finishRequest]
  exact ⟨rfl, Rule.uri_draftAfter ..⟩

end Exchange

namespace Gateway
open Exchange

theorem map_resolve_eq_none_iff {α : Type} {table : Route.Table} (f : Route → α) {path : String} :
    (table.resolve path).map f = none ↔ ∀ entry ∈ table.entries, entry.pattern.matches path = false :=
  Option.map_eq_none_iff.trans Route.Table.resolve_eq_none_iff

/-- The path that arrives decides the route of a request, which is the first that fits. What is forwarded
has the same method, scheme, authority and path, so it decides the same route for the response, and every
rule that runs is reported for that route. The forwarder is told its destination and direction, or neither
if no route fits. -/
theorem one_route_both_ways (table : Route.Table) (settings : GatewaySettings) (world : World)
    (forwarder : Forwarder) (request : Request) :
    let run := (ofTable table settings).handle world forwarder request
    let route := table.resolve request.uri.path
    let unmatched := ∀ entry ∈ table.entries, entry.pattern.matches request.uri.path = false
    (∀ found, route = some found ↔ table.IsFirst request.uri.path found) ∧
      (∀ event ∈ run.events, ∀ site, event.site? = some site →
        ∃ found, route = some found ∧ Event.routeField found.id ∈ event.fields) ∧
      ∀ forward ∈ run.forwards,
        forward.request.method = request.method ∧
        forward.request.uri.scheme = request.uri.scheme ∧
        forward.request.uri.authority = request.uri.authority ∧
        forward.request.uri.path = request.uri.path ∧
        table.resolve forward.request.uri.path = route ∧
        run.result = ((forwarder forward.dispatch).map fun response =>
          echoed forward.dispatch.correlationId (answered table settings.maxBodyBytes (world.clock 3)
            forward.request.uri.path response)) ∧
        forward.dispatch.destination = route.map (·.destination) ∧
        forward.dispatch.direction = route.map (·.direction) ∧
        (forward.dispatch.destination = none ↔ unmatched) ∧
        (forward.dispatch.direction = none ↔ unmatched) := by
  intro run route unmatched
  refine ⟨fun _ => Route.Table.resolve_eq_some_iff, fun event told site tells => ?_,
    fun forward handed => ?_⟩
  · rcases mem_events_handle told with placed | ⟨_, _, _, -, rfl⟩
    · obtain ⟨found, _, same, -, routed, -⟩ := placed.rule site tells
      exact ⟨found, same, routed⟩
    · cases tells
  · obtain ⟨request', passed, rfl⟩ := of_mem_forwards handed
    obtain ⟨method, scheme, authority, path⟩ := target_sent passed
    obtain ⟨-, result⟩ := handle_of_onward passed forwarder
    refine ⟨method, scheme, authority, path, congrArg _ path, ?_, rfl, rfl, ?_, ?_⟩
    · rw [path]
      exact result
    · exact map_resolve_eq_none_iff _
    · exact map_resolve_eq_none_iff _

theorem hostile_parameter_keeps_route :
    let exact : Route := { id := "p", destination := "wrong" }
    let all : Route := {
      id := "all", destination := "right"
      requestRules := [.modifyQueryParam (some "/p?#") (some "/../p")] }
    let table : Route.Table :=
      ⟨[⟨⟨.exact, [.letter '/', .letter 'p']⟩, exact⟩, ⟨⟨.catchAll, [.letter '/']⟩, all⟩]⟩
    let run := (ofTable table {}).handle .still (fun _ => none) (.root .empty .empty)
    ∃ forward ∈ run.forwards, forward.request.uri.query = some "%2Fp%3F%23=%2F..%2Fp" ∧
      table.resolve forward.request.uri.path = some all ∧ forward.dispatch.destination = some "right" := by
  intro exact all table run
  have found : table.resolve "/" = some all := rfl
  have unended : Rule.fatalError all.requestRules
      (draftOf all.requestRules 10485760 (.root .empty .empty)) = none := by decide +kernel
  have passed := onward_of_resolve {} .still (.root .empty .empty) found unended
  have handed := mem_forwards_of_onward passed fun _ => none
  obtain ⟨-, -, course⟩ := one_route_both_ways table {} .still (fun _ => none) (.root .empty .empty)
  obtain ⟨-, -, -, -, route, -, destination, -⟩ := course _ handed
  refine ⟨_, handed, ?_, route.trans found, destination.trans (congrArg _ found)⟩
  decide +kernel

end Gateway
end Relay
