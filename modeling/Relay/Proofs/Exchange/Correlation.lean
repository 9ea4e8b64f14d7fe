import Relay.Proofs.Exchange.RulesRun

/-!
# Events and their exchange

Every event of an exchange has its identifier, and an event about a rule has the route and the type of the
rule as well. There is one exception, which is recorded at the most verbose level only: an edit that renames
members knows nothing of the exchange that it is made in.
-/

namespace Relay
open Http

theorem Verbosity.eq_trace_of_records {verbosity : Verbosity} (heard : verbosity.records .trace = true) :
    verbosity = some .trace := by
  cases verbosity with
  | none => cases heard
  | some most => cases most <;> first | rfl | cases heard

namespace Event

theorem fields_of_site? {event : Event} {site : RuleSite} (told : event.site? = some site) :
    idField site.correlationId ∈ event.fields ∧ routeField site.routeId ∈ event.fields ∧
      ("rule_type", .text site.rule) ∈ event.fields := by
  cases event with
  | ruleUnknown | ruleApplied | requestRejected | ruleFailed =>
    obtain rfl := Option.some.inj told
    simp [fields, siteFields]
  | _ => cases told

/-- An event says where it belongs: to the exchange and, if it is about a rule, to the rule and its
route. -/
structure Placed (event : Event) (id : Uuid) (route : Option Route) : Prop where
  exchange : idField id ∈ event.fields
  rule : ∀ site, event.site? = some site → ∃ found rule, route = some found ∧
    (rule ∈ found.requestRules ∨ rule ∈ found.responseRules) ∧
    routeField found.id ∈ event.fields ∧ ("rule_type", .text rule.type) ∈ event.fields

theorem TellsOfExchange.placed {event : Event} {id : Uuid} (whole : event.TellsOfExchange id)
    (route : Option Route) : event.Placed id route :=
  ⟨whole.2, fun _ told => absurd (whole.1.symm.trans told) nofun⟩

theorem placed_of_site {event : Event} {id : Uuid} {found : Route} {rule : Rule} {phase : String}
    (told : event.site? = some ⟨id, found.id, rule.type, phase⟩)
    (present : rule ∈ found.requestRules ∨ rule ∈ found.responseRules) : event.Placed id (some found) := by
  obtain ⟨identified, routed, typed⟩ := fields_of_site? told
  exact ⟨identified, fun _ _ => ⟨found, rule, rfl, present, routed, typed⟩⟩

end Event

namespace Exchange

theorem placed_routing {table : Route.Table} {limit : Nat} {id : Uuid} {request : Request} {event : Event}
    (told : event ∈ routing table limit id request) :
    event.Placed id (table.resolve request.uri.path) ∨
      event.TellsOfRenaming (table.requestRules request.uri.path) := by
  rcases of_mem_routing told with whole | renamed | ⟨route, found, rule, present, told⟩
  · exact .inl (whole.placed _)
  · exact .inr renamed
  · rw [found]
    exact .inl (Event.placed_of_site told (.inl present))

theorem placed_transformResponse {table : Route.Table} {limit : Nat} {clock : Nat → Instant} {path : String}
    {id : Uuid} {response : Response} {event : Event}
    (told : event ∈ (transformResponse table limit clock path id response).events) :
    event.Placed id (table.resolve path) := by
  unfold transformResponse at told
  cases collected : Body.collect response.body limit with
  | error large =>
    simp only [collected, Run.events_bind] at told
    obtain rfl : event = .responseTooLarge id large.size large.limit := by simpa using told
    exact Event.TellsOfExchange.placed ⟨rfl, List.mem_cons_self⟩ _
  | ok body =>
    cases found : table.resolve path with
    | none => simp [collected, found] at told
    | some route =>
      simp only [collected, found] at told
      split at told
      · simp at told
      · split at told
        · obtain rfl : event = .responseNotText id route.id := by simpa using told
          exact Event.TellsOfExchange.placed ⟨rfl, List.mem_cons_self⟩ _
        · have ran : event ∈
              (runResponseRules ⟨id, route.id, .response⟩ clock 0 route.responseRules body).events := by
            simpa [result_runResponseRules] using told
          obtain ⟨rule, present, told⟩ := mem_events_runResponseRules ran
          exact Event.placed_of_site told (.inr present)

end Exchange

namespace Gateway
open Exchange

theorem echoed_of_result {table : Route.Table} {settings : GatewaySettings} {world : World}
    {forwarder : Forwarder} {request : Request} {answer : Response}
    (answered : ((ofTable table settings).handle world forwarder request).result = some answer) :
    ∃ response, answer = echoed (exchangeId settings world request) response := by
  obtain ⟨-, result⟩ := handle_course table settings world forwarder request
  rw [answered] at result
  obtain ⟨⟨_, response⟩, -, same⟩ := Option.map_eq_some_iff.mp result.symm
  exact ⟨response, same.symm⟩

theorem mem_events_handle {table : Route.Table} {settings : GatewaySettings} {world : World}
    {forwarder : Forwarder} {request : Request} {event : Event}
    (told : event ∈ ((ofTable table settings).handle world forwarder request).events) :
    event.Placed (exchangeId settings world request) (table.resolve request.uri.path) ∨
      event.TellsOfRenaming (table.requestRules request.uri.path) := by
  have opened : event ∈ arrival (showsBodies settings.logBodies world.verbosity)
        (exchangeId settings world request) request ++
      routing table settings.maxBodyBytes (exchangeId settings world request) request →
      event.Placed (exchangeId settings world request) (table.resolve request.uri.path) ∨
        event.TellsOfRenaming (table.requestRules request.uri.path) := by
    intro told
    rcases List.mem_append.mp told with arrived | routed
    · exact .inl ((of_mem_arrival arrived).placed _)
    · exact placed_routing routed
  cases course : onward table settings world request with
  | error error =>
    rw [events_handle_of_error course] at told
    rcases List.mem_append.mp told with told | left
    · exact opened told
    · exact .inl ((of_mem_departure left).placed _)
  | ok request' =>
    rw [events_handle_of_onward course] at told
    rcases List.mem_append.mp told with told | after
    · exact opened told
    cases reply : forwarder (Forward.dispatch ⟨⟨exchangeId settings world request,
        table.resolve request.uri.path⟩, request'⟩) with
    | none => simp [reply] at after
    | some response =>
      simp only [reply, Option.map_some, Option.getD_some] at after
      rcases List.mem_append.mp after with transformed | left
      · exact .inl (placed_transformResponse transformed)
      · exact .inl ((of_mem_departure left).placed _)

/-- Each event of an exchange has the identifier that the answer carries, and each event about a rule has the
route and the type of the rule. The exception is the event of a renaming, which none but the most verbose log
records. -/
theorem events_say_where_they_belong (table : Route.Table) (settings : GatewaySettings) (world : World)
    (forwarder : Forwarder) (request : Request) :
    let run := (ofTable table settings).handle world forwarder request
    let id := exchangeId settings world request
    let route := table.resolve request.uri.path
    (∀ answer, run.result = some answer → answer.headers.values .correlationId = [id.text.toUTF8]) ∧
      (∀ event ∈ run.events,
        event.Placed id route ∨ event.TellsOfRenaming (table.requestRules request.uri.path)) ∧
      (world.verbosity ≠ some .trace →
        ∀ event ∈ recorded world.verbosity run.events, event.Placed id route) := by
  intro run id route
  refine ⟨fun answer answered => ?_, fun event told => mem_events_handle told, ?_⟩
  · obtain ⟨response, rfl⟩ := echoed_of_result answered
    exact Headers.values_insert_self ..
  · intro quiet event kept
    obtain ⟨told, heard⟩ := List.mem_filter.mp kept
    rcases mem_events_handle told with placed | ⟨old, new, count, -, rfl⟩
    · exact placed
    · exact absurd (Verbosity.eq_trace_of_records heard) quiet

theorem renaming_is_placed_below_trace :
    let route : Route := { id := "r", requestRules := [.renameJsonField (some "a") (some "b")] }
    let world : World := { World.still with verbosity := some .debug }
    let run := (ofTable (.always route) {}).handle world
      (fun _ => some { status := 200, headers := .empty, body := .empty })
      (.root .empty "\x7b\"a\":1\x7d".toUTF8)
    let event : Event := .ruleApplied ⟨⟨0⟩, "r", "RenameJsonField", "request"⟩ true
    (∃ answer, run.result = some answer ∧
      answer.headers.values .correlationId = [(Uuid.mk 0).text.toUTF8]) ∧
      event ∈ recorded world.verbosity run.events ∧ event.Placed ⟨0⟩ (some route) := by
  intro route world run event
  obtain ⟨echo, -, below⟩ := events_say_where_they_belong (.always route) {} world
    (fun _ => some { status := 200, headers := .empty, body := .empty })
    (.root .empty "\x7b\"a\":1\x7d".toUTF8)
  have ended : run.result.isSome = true := by decide +kernel
  obtain ⟨answer, answered⟩ := Option.isSome_iff_exists.mp ended
  have told : event ∈ recorded world.verbosity run.events := by decide +kernel
  exact ⟨⟨answer, answered, echo answer answered⟩, told, below (by decide) event told⟩

theorem renaming_is_told_without_its_exchange :
    let rules : List Rule := [.renameJsonField (some "a") (some "b")]
    let world : World := { World.still with verbosity := some .trace }
    let run := (ofTable (.always { id := "r", requestRules := rules }) {}).handle world (fun _ => none)
      (.root .empty "\x7b\"a\":1\x7d".toUTF8)
    ∃ event ∈ recorded world.verbosity run.events, ∀ id, ("correlation_id", id) ∉ event.fields := by
  intro rules world run
  have told : Event.membersRenamed "a" "b" 1 ∈ recorded world.verbosity run.events := by decide +kernel
  refine ⟨_, told, fun id identified => ?_⟩
  simp [Event.fields] at identified

end Gateway
end Relay
