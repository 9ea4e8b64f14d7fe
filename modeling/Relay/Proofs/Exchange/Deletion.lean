import Relay.Proofs.Exchange.Course
import Relay.Proofs.Rule.Deletion

/-!
# Routes without the rules that change nothing

An exchange is forwarded and answered the same when the rules that change nothing in it are taken out of
its route, those for requests or those for responses.
-/

namespace Relay
open Http

namespace Route

def Table.mapRoutes (f : Route → Route) (table : Table) : Table :=
  ⟨table.entries.map fun entry => { entry with route := f entry.route }⟩

theorem Table.resolve_mapRoutes (f : Route → Route) (table : Table) (path : String) :
    (table.mapRoutes f).resolve path = (table.resolve path).map f := by
  simp only [Table.resolve, Table.mapRoutes, List.find?_map, Option.map_map]
  rfl

/-- The route with those of its rules that change a request. -/
def onlyChangingRequest (draft : List Rule → RequestDraft) (route : Route) : Route :=
  { route with requestRules := Rule.changingRequest route.requestRules (draft route.requestRules) }

/-- The route with those of its rules that change the body of a response. -/
def onlyChangingResponse (clock : Nat → Instant) (body : Body) (route : Route) : Route :=
  { route with responseRules := (Rule.changingResponse clock route.responseRules body).map (·.2) }

def KeepsEnds (f : Route → Route) : Prop :=
  ∀ route, (f route).destination = route.destination ∧ (f route).direction = route.direction

theorem keepsEnds_onlyChangingRequest (draft : List Rule → RequestDraft) :
    KeepsEnds (onlyChangingRequest draft) := fun _ => ⟨rfl, rfl⟩

theorem keepsEnds_onlyChangingResponse (clock : Nat → Instant) (body : Body) :
    KeepsEnds (onlyChangingResponse clock body) := fun _ => ⟨rfl, rfl⟩

end Route

namespace Exchange

/-! ### Bodies in memory -/

/-- Rules that do not touch bodies leave the body that is held, and it need not be held for them. -/
theorem finishRequest_of_untouched {rules : List Rule}
    (untouched : ∀ rule ∈ rules, rule.touchesBody = false) {request : Request} {draft : RequestDraft}
    (fresh : draft.body = none ∨ draft.body = some (.ofBytes request.body)) :
    finishRequest request (Rule.draftAfter rules { draft with body := none }) =
      finishRequest request (Rule.draftAfter rules draft) := by
  have kept : Rule.draftAfter rules draft = { Rule.draftAfter rules draft with body := draft.body } :=
    Rule.draftAfter_withBody untouched draft draft.body
  rw [Rule.draftAfter_withBody untouched, kept]
  rcases fresh with none | some
  · rw [none]
  · rw [some]
    rfl

theorem finishRequest_changingRequest (rules : List Rule) (limit : Nat) (request : Request) :
    let changing := Rule.changingRequest rules (draftOf rules limit request)
    finishRequest request (Rule.draftAfter changing (draftOf changing limit request)) =
      finishRequest request (Rule.draftAfter rules (draftOf rules limit request)) := by
  intro changing
  have all : Rule.draftAfter rules (draftOf rules limit request) =
      Rule.draftAfter changing (draftOf rules limit request) :=
    (Rule.draftAfter_changingRequest ..).symm
  rw [all]
  by_cases untouched : ∀ rule ∈ changing, rule.touchesBody = false
  · have light : draftOf changing limit request = { draftOf rules limit request with body := none } := by
      have idle : ¬ changing.any (·.touchesBody) = true := by simpa using untouched
      simp [draftOf, heldBody_eq, idle]
    rw [light]
    exact finishRequest_of_untouched untouched (body_draftOf rules limit request)
  -- a rule that touches bodies is left, so the body is held for both lists or for neither
  · have touched : changing.any (·.touchesBody) = true := by simpa using untouched
    obtain ⟨rule, present, touches⟩ := List.any_eq_true.mp touched
    have touched' : rules.any (·.touchesBody) = true :=
      List.any_eq_true.mpr ⟨rule, (Rule.mem_changingRequest present).1, touches⟩
    have same : draftOf changing limit request = draftOf rules limit request := by
      simp only [draftOf, heldBody_eq, touched, touched']
    rw [same]

theorem sentBy_changingRequest {rules : List Rule} {limit : Nat} {request request' : Request}
    (passed : sentBy rules limit request = .ok request') :
    sentBy (Rule.changingRequest rules (draftOf rules limit request)) limit request = .ok request' := by
  obtain ⟨-, finished⟩ := sentBy_eq_ok.mp passed
  refine sentBy_eq_ok.mpr ⟨Rule.fatalError_changingRequest .., ?_⟩
  exact (finishRequest_changingRequest ..).trans finished

theorem sent_mapRoutes {table : Route.Table} {limit : Nat} {request : Request} {f : Route → Route}
    (alike : ∀ route, table.resolve request.uri.path = some route →
      sentBy (f route).requestRules limit request = sentBy route.requestRules limit request) :
    sent (table.mapRoutes f) limit request = sent table limit request := by
  unfold sent
  rw [Route.Table.resolve_mapRoutes]
  cases found : table.resolve request.uri.path with
  | none => rfl
  | some route => exact alike route found

theorem answeredBy_changingResponse {rules : List Rule} {limit : Nat} {clock clock' : Nat → Instant}
    {response : Response}
    (same : ∀ i, (h : i < (Rule.changingResponse clock rules (.ofBytes response.body)).length) →
      clock' i = clock (Rule.changingResponse clock rules (.ofBytes response.body))[i].1) :
    answeredBy ((Rule.changingResponse clock rules (.ofBytes response.body)).map (·.2)) limit clock'
      response = answeredBy rules limit clock response := by
  unfold answeredBy
  rw [Rule.bodyAfter_changingResponse same]

end Exchange

namespace Gateway
open Exchange

/-- The world in which the last stage reads its clock, for each of its rules, as it is read in this world
for the rule at another place. -/
def rereading (places : List Nat) (world : World) : World :=
  { world with clock := fun stage =>
      if stage = 3 then fun place => world.clock 3 (places.getD place place) else world.clock stage }

theorem handle_mapRoutes {table : Route.Table} {settings : GatewaySettings} {world world' : World}
    {request request' : Request} {f : Route → Route}
    (ids : world'.freshId = world.freshId)
    (ends : Route.KeepsEnds f)
    (passed : onward table settings world request = .ok request')
    (passed' : onward (table.mapRoutes f) settings world' request = .ok request') {forwarder : Forwarder}
    (answers : ∀ forward, ((ofTable table settings).handle world forwarder request).forwards = [forward] →
      ∀ response, forwarder forward.dispatch = some response →
        answered (table.mapRoutes f) settings.maxBodyBytes (world'.clock 3) request.uri.path response =
          answered table settings.maxBodyBytes (world.clock 3) request.uri.path response) :
    let run := (ofTable table settings).handle world forwarder request
    let run' := (ofTable (table.mapRoutes f) settings).handle world' forwarder request
    run'.forwards.map Forward.dispatch = run.forwards.map Forward.dispatch ∧ run'.result = run.result := by
  intro run run'
  obtain ⟨handed, result⟩ := handle_of_onward passed forwarder
  obtain ⟨handed', result'⟩ := handle_of_onward passed' forwarder
  have id : exchangeId settings world' request = exchangeId settings world request := by
    rw [exchangeId, exchangeId, ids]
  have dispatch : Forward.dispatch ⟨⟨exchangeId settings world' request,
      (table.mapRoutes f).resolve request.uri.path⟩, request'⟩ =
      Forward.dispatch ⟨⟨exchangeId settings world request,
        table.resolve request.uri.path⟩, request'⟩ := by
    rw [id, Route.Table.resolve_mapRoutes]
    simp [Forward.dispatch, Forward.destination, Forward.direction, Function.comp_def, ends _]
  refine ⟨by simp only [run, run', handed, handed', List.map_cons, dispatch, List.map_nil], ?_⟩
  simp only [run, run', result, result']
  rw [dispatch, id]
  cases reply : forwarder (Forward.dispatch ⟨⟨exchangeId settings world request,
      table.resolve request.uri.path⟩, request'⟩) with
  | none => rfl
  | some response => simp only [Option.map_some, answers _ handed response reply]

theorem sent_onlyChangingRequest {table : Route.Table} {limit : Nat} {request request' : Request}
    (passed : sent table limit request = .ok request') :
    sent (table.mapRoutes (Route.onlyChangingRequest fun rules => draftOf rules limit request)) limit
      request = .ok request' := by
  rw [sent_mapRoutes, passed]
  intro route found
  have here : sentBy route.requestRules limit request = .ok request' := by
    simpa only [sent, found] using passed
  exact (sentBy_changingRequest here).trans here.symm

theorem answered_onlyChangingResponse {table : Route.Table} {limit : Nat} {world : World} {path : String}
    {route : Route} {response : Response} (found : table.resolve path = some route) :
    let body := Body.ofBytes response.body
    let places := (Rule.changingResponse (world.clock 3) route.responseRules body).map (·.1)
    answered (table.mapRoutes (Route.onlyChangingResponse (world.clock 3) body)) limit
      ((rereading places world).clock 3) path response =
        answered table limit (world.clock 3) path response := by
  intro body places
  simp only [answered, Route.Table.resolve_mapRoutes, found, Option.map_some, Route.onlyChangingResponse]
  refine answeredBy_changingResponse fun i inside => ?_
  show world.clock 3 (places.getD i i) = _
  simp [places, body, List.getD, inside]

theorem handle_onlyChangingRequest {table : Route.Table} {settings : GatewaySettings} {world : World}
    {forwarder : Forwarder} {request : Request} {forward : Forward}
    (handed : ((ofTable table settings).handle world forwarder request).forwards = [forward]) :
    let pruned := table.mapRoutes
      (Route.onlyChangingRequest fun rules => draftOf rules settings.maxBodyBytes request)
    let run := (ofTable table settings).handle world forwarder request
    let run' := (ofTable pruned settings).handle world forwarder request
    run'.forwards.map Forward.dispatch = run.forwards.map Forward.dispatch ∧ run'.result = run.result := by
  intro pruned run run'
  obtain ⟨request', passed⟩ := onward_of_forwards handed
  have passed' : onward pruned settings world request = .ok request' := sent_onlyChangingRequest passed
  refine handle_mapRoutes rfl (Route.keepsEnds_onlyChangingRequest _) passed passed' ?_
  intro _ _ response _
  simp only [answered, Route.Table.resolve_mapRoutes]
  cases table.resolve request.uri.path <;> rfl

theorem handle_onlyChangingResponse {table : Route.Table} {settings : GatewaySettings} {world : World}
    {forwarder : Forwarder} {request : Request} {forward : Forward}
    (handed : ((ofTable table settings).handle world forwarder request).forwards = [forward])
    {route : Route} {response : Response} (found : table.resolve request.uri.path = some route)
    (reply : forwarder forward.dispatch = some response) :
    let body := Body.ofBytes response.body
    let places := (Rule.changingResponse (world.clock 3) route.responseRules body).map (·.1)
    let pruned := table.mapRoutes (Route.onlyChangingResponse (world.clock 3) body)
    let run := (ofTable table settings).handle world forwarder request
    let run' := (ofTable pruned settings).handle (rereading places world) forwarder request
    run'.forwards.map Forward.dispatch = run.forwards.map Forward.dispatch ∧ run'.result = run.result := by
  intro body places pruned run run'
  obtain ⟨request', passed⟩ := onward_of_forwards handed
  have passed' : onward pruned settings (rereading places world) request = .ok request' :=
    (sent_mapRoutes (f := Route.onlyChangingResponse (world.clock 3) body) fun _ _ => rfl).trans passed
  have ids : (rereading places world).freshId = world.freshId := rfl
  refine handle_mapRoutes ids (Route.keepsEnds_onlyChangingResponse _ _) passed passed' ?_
  intro forward' same response' reply'
  obtain rfl : forward = forward' := List.singleton_inj.mp (handed.symm.trans same)
  obtain rfl : response = response' := Option.some.inj (reply.symm.trans reply')
  exact answered_onlyChangingResponse found

/-- A rule that fails, or that reports no change, leaves its message exactly as it was, and only a missing
required header is a fatal failure. So the rules of a route that change nothing can be taken out of it, and
an exchange that is forwarded is forwarded and answered the same. -/
theorem unchanging_rules_can_be_deleted (table : Route.Table) (settings : GatewaySettings) (world : World)
    (forwarder : Forwarder) (request : Request) :
    (∀ (rule : Rule) (draft after : RequestDraft) (result : Except RuleError Outcome),
      rule.onRequest.on draft = (result, after) → result ≠ .ok .changed → after = draft) ∧
    (∀ (now : Instant) (rule : Rule) (body after : Body) (result : Except RuleError Outcome),
      (rule.onResponse now).on body = (result, after) → result ≠ .ok .changed → after = body) ∧
    (∀ (rule : Rule) (draft : RequestDraft) (error : RuleError),
      (rule.onRequest.on draft).1 = .error error ∧ error.isFatal = true ↔
        ∃ name, rule = .validateHeader (some name) true ∧ draft.headers.has name = false ∧
          error = .missingHeader name) ∧
    (∀ (now : Instant) (rule : Rule) (body after : Body) (error : RuleError),
      (rule.onResponse now).on body = (.error error, after) → error.isFatal = false) ∧
    let run := (ofTable table settings).handle world forwarder request
    ∀ forward, run.forwards = [forward] →
      (let pruned := table.mapRoutes
        (Route.onlyChangingRequest fun rules => draftOf rules settings.maxBodyBytes request)
      let run' := (ofTable pruned settings).handle world forwarder request
      run'.forwards.map Forward.dispatch = run.forwards.map Forward.dispatch ∧
        run'.result = run.result) ∧
      ∀ route response, table.resolve request.uri.path = some route →
        forwarder forward.dispatch = some response →
          let body := Body.ofBytes response.body
          let places := (Rule.changingResponse (world.clock 3) route.responseRules body).map (·.1)
          let pruned := table.mapRoutes (Route.onlyChangingResponse (world.clock 3) body)
          let run' := (ofTable pruned settings).handle (rereading places world) forwarder request
          run'.forwards.map Forward.dispatch = run.forwards.map Forward.dispatch ∧
            run'.result = run.result :=
  ⟨fun _ _ _ _ => Rule.onRequest_kept, fun _ _ _ _ _ => Rule.onResponse_kept,
    fun _ _ _ => Rule.onRequest_fatal_iff, fun _ _ _ _ _ => Rule.onResponse_not_fatal,
    fun _ handed => ⟨handle_onlyChangingRequest handed,
      fun _ _ found reply => handle_onlyChangingResponse handed found reply⟩⟩

theorem failing_rule_can_be_deleted :
    let add : Rule := .addHeader (some "X-Key") (some "1")
    let rules : List Rule := [.addHeader (some "not a name") (some "x"), .unknown "Sign", add]
    let run := fun rules => (ofTable (.always { requestRules := rules }) {}).handle .still (fun _ => none)
      (.root .empty .empty)
    (run rules).forwards.map Forward.dispatch = (run [add]).forwards.map Forward.dispatch := by
  intro add rules run
  have passed : Rule.fatalError rules (draftOf rules 10485760 (.root .empty .empty)) = none := by
    decide +kernel
  have handed := forwards_always { requestRules := rules } {} .still passed fun _ => none
  exact ((unchanging_rules_can_be_deleted _ _ _ _ _).2.2.2.2 _ handed).1.1.symm

end Gateway
end Relay
