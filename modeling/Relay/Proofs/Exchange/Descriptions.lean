import Mathlib.Data.List.Forall2
import Relay.Proofs.Exchange.Report
import Relay.Proofs.Json.Yields
import Relay.Proofs.Route.FirstMatch

/-!
# What routes only hand on

The description, the destination and the direction of a route decide nothing. Two lists of routes that differ in these
alone are like one list without them (`Route.bare`): `descriptions_decide_nothing`. What the forwarder is told of the
route is all that differs.
-/

namespace Relay
open Http

namespace Route

/-- Routes that agree on their id, their path and their rules. -/
structure Alike (route other : Route) : Prop where
  id : other.id = route.id
  path : other.path = route.path
  requestRules : other.requestRules = route.requestRules
  responseRules : other.responseRules = route.responseRules

/-- A route without what it only hands on. -/
def bare (route : Route) : Route := { route with description := "", destination := "", direction := .incoming }

theorem Alike.bare_eq {route other : Route} (alike : Alike route other) : other.bare = route.bare := by
  simp only [bare, alike.id, alike.path, alike.requestRules, alike.responseRules]

theorem map_bare_of_alike {routes others : List Route} (alike : List.Forall₂ Alike routes others) :
    others.map bare = routes.map bare := by
  induction alike with
  | nil => rfl
  | cons here _ ih => rw [List.map_cons, List.map_cons, here.bare_eq, ih]

theorem findIdx?_isFor_of_alike {routes others : List Route} (alike : List.Forall₂ Alike routes others)
    (path : String) : others.findIdx? (isFor path) = routes.findIdx? (isFor path) := by
  -- Whether a route is for a path is seen without what it hands on.
  have bared : ∀ list : List Route, (list.map bare).findIdx? (isFor path) = list.findIdx? (isFor path) :=
    fun _ => List.findIdx?_map
  rw [← bared others, map_bare_of_alike alike, bared]

namespace Table

variable (compiles : Pattern → Bool)

def bare (table : Table) : Table := ⟨table.entries.map fun entry => ⟨entry.pattern, entry.route.bare⟩⟩

theorem resolve_bare (table : Table) (path : String) :
    table.bare.resolve path = (table.resolve path).map Route.bare := by
  rw [bare, resolve, resolve, List.find?_map, Option.map_map, Option.map_map]
  rfl

theorem ofRoutes_bare (routes : List Route) :
    ofRoutes compiles (routes.map Route.bare) = (ofRoutes compiles routes).map bare := by
  induction routes with
  | nil => rfl
  | cons route rest ih =>
    rcases hasPattern_or_fault compiles route with ⟨pattern, parsed⟩ | ⟨fault, failed⟩
    · have parsed' : Pattern.parse compiles route.bare.path = .ok pattern := parsed
      rw [List.map_cons, ofRoutes_cons_of_pattern parsed, ofRoutes_cons_of_pattern parsed', ih]
      cases ofRoutes compiles rest <;> rfl
    · have failed' : Pattern.parse compiles route.bare.path = .error fault := failed
      rw [List.map_cons, ofRoutes_cons_of_fault failed, ofRoutes_cons_of_fault failed']
      rfl

theorem ofRoute_bare (route : Route) :
    Entry.ofRoute compiles route.bare =
      (Entry.ofRoute compiles route).map fun entry => ⟨entry.pattern, entry.route.bare⟩ := by
  have path : route.bare.path = route.path := rfl
  rw [Entry.ofRoute, Entry.ofRoute, path]
  cases Pattern.parse compiles route.path <;> rfl

theorem buildEvents_bare (routes : List Route) :
    buildEvents compiles (routes.map Route.bare) = buildEvents compiles routes := by
  induction routes with
  | nil => rfl
  | cons route rest ih =>
    rw [List.map_cons, buildEvents, buildEvents, ih, ofRoute_bare]
    cases Entry.ofRoute compiles route <;> rfl

end Table
end Route

namespace Settings

theorem checkRoutes_bare (seen : List String) (index : Nat) (routes : List Route) :
    checkRoutes seen index (routes.map Route.bare) = checkRoutes seen index routes := by
  induction routes generalizing seen index with
  | nil => rfl
  | cons route rest ih =>
    have same : RouteFault.of seen route.bare = RouteFault.of seen route := rfl
    rw [List.map_cons, checkRoutes, checkRoutes, same, ih]
    rfl

end Settings

namespace Exchange

variable (table : Route.Table) (limit : Nat) (request : Request)

theorem sent_bare : sent table.bare limit request = sent table limit request := by
  rw [sent, sent, Route.Table.resolve_bare]
  cases table.resolve request.uri.path <;> rfl

theorem transformResponse_bare (clock : Nat → Instant) (path : String) (id : Uuid) (response : Response) :
    transformResponse table.bare limit clock path id response =
      transformResponse table limit clock path id response := by
  rw [transformResponse, transformResponse, Route.Table.resolve_bare]
  cases table.resolve path <;> rfl

theorem answered_bare (clock : Nat → Instant) (path : String) (response : Response) :
    answered table.bare limit clock path response = answered table limit clock path response := by
  rw [answered, answered, Route.Table.resolve_bare]
  cases table.resolve path <;> rfl

theorem routing_bare (id : Uuid) : routing table.bare limit id request = routing table limit id request := by
  rw [routing, routing, Route.Table.resolve_bare]
  cases table.resolve request.uri.path <;> rfl

end Exchange

namespace Gateway
open Exchange

/-! ### Gateways -/

theorem buildEvents_bare (compiles : Route.Pattern → Bool) (routes : List Route) (settings : GatewaySettings) :
    buildEvents compiles (routes.map Route.bare) settings = buildEvents compiles routes settings := by
  rw [buildEvents, buildEvents, Route.Table.buildEvents_bare, ofRoutes, ofRoutes, Route.Table.ofRoutes_bare]
  cases Route.Table.ofRoutes compiles routes with
  | error error => rfl
  | ok table =>
    have size : table.bare.size = table.size := List.length_map _
    exact congrArg (fun size => _ ++ [Event.gatewayReady size _]) size

/-- Two requests that are forwarded with what is told of two routes, and that are otherwise the same. -/
structure SameButTold (route route' : Option Route) (forward forward' : Forward) : Prop where
  request : forward'.dispatch.request = forward.dispatch.request
  correlationId : forward'.dispatch.correlationId = forward.dispatch.correlationId
  destination : forward.dispatch.destination = route.map (·.destination)
  direction : forward.dispatch.direction = route.map (·.direction)
  destination' : forward'.dispatch.destination = route'.map (·.destination)
  direction' : forward'.dispatch.direction = route'.map (·.direction)

section

variable {table table' : Route.Table} (same : table'.bare = table.bare) (settings : GatewaySettings) (world : World)
  (request : Request)
include same

theorem onward_of_bare : onward table' settings world request = onward table settings world request := by
  rw [onward, ← sent_bare, same, sent_bare, onward]

theorem routing_of_bare (id : Uuid) :
    routing table' settings.maxBodyBytes id request = routing table settings.maxBodyBytes id request := by
  rw [← routing_bare, same, routing_bare]

theorem answered_of_bare (clock : Nat → Instant) (response : Response) :
    answered table' settings.maxBodyBytes clock request.uri.path response =
      answered table settings.maxBodyBytes clock request.uri.path response := by
  rw [← answered_bare, same, answered_bare]

theorem transformResponse_of_bare (clock : Nat → Instant) (id : Uuid) (response : Response) :
    transformResponse table' settings.maxBodyBytes clock request.uri.path id response =
      transformResponse table settings.maxBodyBytes clock request.uri.path id response := by
  rw [← transformResponse_bare, same, transformResponse_bare]

theorem id_resolve_of_bare :
    (table'.resolve request.uri.path).map (·.id) = (table.resolve request.uri.path).map (·.id) := by
  have bared : ∀ table : Route.Table,
      (table.bare.resolve request.uri.path).map (·.id) = (table.resolve request.uri.path).map (·.id) := by
    intro table
    rw [Route.Table.resolve_bare, Option.map_map]
    rfl
  rw [← bared table', same, bared]

theorem forwards_of_bare (forwarder forwarder' : Forwarder) :
    List.Forall₂ (SameButTold (table.resolve request.uri.path) (table'.resolve request.uri.path))
      ((ofTable table settings).handle world forwarder request).forwards
      ((ofTable table' settings).handle world forwarder' request).forwards := by
  have onwards := onward_of_bare same settings world request
  cases course : onward table settings world request with
  | error error =>
    rw [(handle_of_error course forwarder).1, (handle_of_error (onwards.trans course) forwarder').1]
    exact .nil
  | ok request' =>
    rw [(handle_of_onward course forwarder).1, (handle_of_onward (onwards.trans course) forwarder').1]
    exact .cons ⟨rfl, rfl, rfl, rfl, rfl, rfl⟩ .nil

/-- Gateways over tables that are alike answer and report alike, if the forwarders do not make a difference. -/
theorem handle_of_bare (forwarder forwarder' : Forwarder) :
    let run := (ofTable table settings).handle world forwarder request
    let run' := (ofTable table' settings).handle world forwarder' request
    (∀ forward ∈ run.forwards, ∀ forward' ∈ run'.forwards,
      forwarder' forward'.dispatch = forwarder forward.dispatch) →
      run'.result = run.result ∧ run'.events = run.events := by
  intro run run' answer
  have onwards := onward_of_bare same settings world request
  cases course : onward table settings world request with
  | error error =>
    have course' := onwards.trans course
    constructor
    · exact (handle_of_error course' forwarder').2.trans (handle_of_error course forwarder).2.symm
    · show (handle ..).events = (handle ..).events
      rw [events_handle_of_error course, events_handle_of_error course', routing_of_bare same, id_resolve_of_bare same]
  | ok request' =>
    have course' := onwards.trans course
    have answers := answer _ (mem_forwards_of_onward course forwarder) _ (mem_forwards_of_onward course' forwarder')
    constructor
    · show (handle ..).result = (handle ..).result
      rw [(handle_of_onward course forwarder).2, (handle_of_onward course' forwarder').2, answers]
      simp only [answered_of_bare same]
    · show (handle ..).events = (handle ..).events
      rw [events_handle_of_onward course, events_handle_of_onward course', answers, routing_of_bare same,
        id_resolve_of_bare same]
      simp only [answered_of_bare same, transformResponse_of_bare same]

end

theorem resolve_eq_bind {routes : List Route} {table : Route.Table}
    (built : Route.Table.ofRoutes compiles routes = .ok table) (path : String) : table.resolve path = (routes.findIdx? (Route.isFor path)).bind (routes[·]?) := by
  rw [Route.Table.resolve_eq_find? built, List.find?_eq_bind_findIdx?_getElem?]

/-- Two lists of routes that differ in descriptions, destinations and directions alone are both refused, with the same
error, or both give a gateway. The gateways resolve each request to the routes at one place of the two lists, and they
forward the same request, or none, telling the forwarder the destination and the direction of these routes. If it
responds alike, they give the same answer and report the same. -/
theorem descriptions_decide_nothing {routes others : List Route} (alike : List.Forall₂ Route.Alike routes others)
    (compiles : Route.Pattern → Bool) (settings : GatewaySettings) :
    (∀ logging, ({ gateway := settings, logging, routes := others } : Settings).validate =
      ({ gateway := settings, logging, routes } : Settings).validate) ∧
    buildEvents compiles others settings = buildEvents compiles routes settings ∧
    ((∃ error, ofRoutes compiles routes settings = .error error ∧
        ofRoutes compiles others settings = .error error) ∨
      ∃ gateway gateway', ofRoutes compiles routes settings = .ok gateway ∧
        ofRoutes compiles others settings = .ok gateway' ∧
        ∀ (world : World) (forwarder forwarder' : Forwarder) (request : Request),
          let place := routes.findIdx? (Route.isFor request.uri.path)
          let run := gateway.handle world forwarder request
          let run' := gateway'.handle world forwarder' request
          others.findIdx? (Route.isFor request.uri.path) = place ∧
          gateway.table.resolve request.uri.path = place.bind (routes[·]?) ∧
          gateway'.table.resolve request.uri.path = place.bind (others[·]?) ∧
          List.Forall₂ (SameButTold (place.bind (routes[·]?)) (place.bind (others[·]?))) run.forwards run'.forwards ∧
          ((∀ forward ∈ run.forwards, ∀ forward' ∈ run'.forwards,
            forwarder' forward'.dispatch = forwarder forward.dispatch) →
            run'.result = run.result ∧ run'.events = run.events)) := by
  have bared := Route.map_bare_of_alike alike
  have places := Route.findIdx?_isFor_of_alike alike
  refine ⟨fun logging => ?_, ?_, ?_⟩
  · have checked : Settings.checkRoutes [] 0 others = Settings.checkRoutes [] 0 routes := by
      rw [← Settings.checkRoutes_bare, bared, Settings.checkRoutes_bare]
    simp only [Settings.validate, checked]
  · rw [← buildEvents_bare, bared, buildEvents_bare]
  · have tables : (Route.Table.ofRoutes compiles others).map Route.Table.bare =
        (Route.Table.ofRoutes compiles routes).map Route.Table.bare := by
      rw [← Route.Table.ofRoutes_bare, bared, Route.Table.ofRoutes_bare]
    rw [ofRoutes, ofRoutes]
    cases built : Route.Table.ofRoutes compiles routes with
    | error error =>
      rw [built] at tables
      exact .inl ⟨error, rfl, by rw [map_error tables]; rfl⟩
    | ok table =>
      rw [built] at tables
      obtain ⟨table', built', same⟩ := map_ok tables
      refine .inr ⟨ofTable table settings, ofTable table' settings, rfl, by rw [built']; rfl, ?_⟩
      intro world forwarder forwarder' request place run run'
      have here : table.resolve request.uri.path = place.bind (routes[·]?) := resolve_eq_bind built _
      have there : table'.resolve request.uri.path = place.bind (others[·]?) := by
        rw [resolve_eq_bind built', places]
      refine ⟨places _, here, there, ?_, handle_of_bare same settings world request forwarder forwarder'⟩
      rw [← here, ← there]
      exact forwards_of_bare same settings world request forwarder forwarder'

theorem moved_destination_is_told_only :
    let compiles : Route.Pattern → Bool := fun _ => true
    let first : Route := { id := "x", path := "/x" }
    let route : Route := {
      id := "all", path := "/\x7b**rest\x7d", destination := "old"
      requestRules := [.addHeader (some "X-A") (some "1")] }
    let other : Route := { route with description := "moved", destination := "new", direction := .outgoing }
    let forwarder : Forwarder := fun _ => some { status := 200, headers := .empty, body := .empty }
    List.Forall₂ Route.Alike [first, route] [first, other] ∧
      ∃ gateway gateway', ofRoutes compiles [first, route] {} = .ok gateway ∧
        ofRoutes compiles [first, other] {} = .ok gateway' ∧
        let run := gateway.handle .still forwarder (.root .empty .empty)
        let run' := gateway'.handle .still forwarder (.root .empty .empty)
        run'.result = run.result ∧ run'.events = run.events ∧
          ∃ forward ∈ run.forwards, ∃ forward' ∈ run'.forwards,
            forward'.dispatch.request = forward.dispatch.request ∧ forward.dispatch.destination = some "old" ∧
              forward'.dispatch.destination = some "new" ∧ forward'.dispatch.direction = some .outgoing := by
  intro compiles first route other forwarder
  have alike : List.Forall₂ Route.Alike [first, route] [first, other] :=
    .cons ⟨rfl, rfl, rfl, rfl⟩ (.cons ⟨rfl, rfl, rfl, rfl⟩ .nil)
  have placed : [first, route].findIdx? (Route.isFor (Http.Request.root .empty .empty).uri.path) = some 1 := by
    decide +kernel
  let table : Route.Table := ⟨[⟨⟨.exact, [.letter '/', .letter 'x']⟩, first⟩, ⟨⟨.catchAll, [.letter '/']⟩, route⟩]⟩
  have built : ofRoutes compiles [first, route] {} = .ok (ofTable table {}) := by cbv
  obtain ⟨-, -, ⟨error, refused, -⟩ | ⟨gateway, gateway', built', rebuilt, runs⟩⟩ :=
    descriptions_decide_nothing alike compiles {}
  · cases built.symm.trans refused
  · cases built.symm.trans built'
    refine ⟨alike, ?_⟩
    obtain ⟨-, resolved, -, told, same⟩ := runs .still forwarder forwarder (.root .empty .empty)
    obtain ⟨answers, reports⟩ := same fun _ _ _ _ => rfl
    rw [placed] at resolved told
    have found : table.resolve (Http.Request.root .empty .empty).uri.path = some route := resolved
    have unended : Rule.fatalError route.requestRules
        (draftOf route.requestRules 10485760 (.root .empty .empty)) = none := by decide +kernel
    have passed := onward_of_resolve {} .still (.root .empty .empty) found unended
    rw [(handle_of_onward passed forwarder).1] at told
    obtain ⟨forward', rest, tells, -, forwards'⟩ := List.forall₂_cons_left_iff.mp told
    refine ⟨ofTable table {}, gateway', built, rebuilt, answers, reports, _,
      mem_forwards_of_onward passed forwarder, forward', ?_, tells.request, tells.destination, tells.destination',
      tells.direction'⟩
    rw [forwards']
    exact List.mem_cons_self

end Gateway
end Relay
