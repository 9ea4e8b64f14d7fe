import Relay.Proofs.Exchange.Course

/-!
# What an exchange reports

The events of an exchange, in order: its arrival, the match of a route, one event for every rule that runs,
and its departure. `events_handle_of_onward` and `events_handle_of_error` say it of a gateway, with the two
ends of an exchange that `Course` tells apart.
-/

namespace Relay
open Http

namespace Run

variable {α β : Type}

@[simp] theorem events_bind (run : Run α) (next : α → Run β) :
    (run >>= next).events = run.events ++ (run.result.map fun x => (next x).events).getD [] := by
  obtain ⟨notes, _ | x⟩ := run <;> simp [events]

@[simp] theorem events_nil (result : Option α) : (⟨[], result⟩ : Run α).events = [] := rfl

@[simp] theorem events_report (event : Event) : (report event).events = [event] := rfl

@[simp] theorem events_count (counter : Counter) : (count counter).events = [] := rfl

@[simp] theorem events_note_events (events : List Event) : (note (events.map .event)).events = events :=
  List.filterMap_map.trans List.filterMap_some

end Run

namespace Exchange

/-! ### Runs of rules -/

/-- The event that tells what came of a rule. -/
def RuleScope.outcomeEvent (scope : RuleScope) (rule : Rule) : Except RuleError Outcome → Event
  | .ok .unsupported => .ruleUnknown (scope.site rule.type)
  | .ok outcome => .ruleApplied (scope.site rule.label) (outcome = .changed)
  | .error error =>
    if error.isFatal then .requestRejected (scope.site rule.label) error.message
    else .ruleFailed (scope.site rule.label) error.message

@[simp] theorem events_notes (scope : RuleScope) (rule : Rule) (result : Except RuleError Outcome) :
    (Run.note (scope.notes rule result)).events = [scope.outcomeEvent rule result] := by
  unfold RuleScope.notes RuleScope.outcomeEvent
  rcases result with error | outcome
  · by_cases fatal : error.isFatal
    · simp only [fatal, if_true]
      rfl
    · simp only [if_neg fatal]
      rfl
  · cases outcome <;> rfl

theorem events_runRequestRules_cons (scope : RuleScope) (rule : Rule) (rules : List Rule)
    (draft : RequestDraft) :
    (runRequestRules scope (rule :: rules) draft).events =
      rule.requestEvents draft ++ scope.outcomeEvent rule (rule.onRequest.on draft).1 ::
        match (rule.onRequest.on draft).1 with
        | .ok _ => (runRequestRules scope rules (rule.onRequest.on draft).2).events
        | .error error =>
          if error.isFatal then []
          else (runRequestRules scope rules (rule.onRequest.on draft).2).events := by
  rw [runRequestRules]
  rcases rule.onRequest.on draft with ⟨error | outcome, after⟩
  · by_cases fatal : error.isFatal <;> simp [fatal]
  · simp

theorem events_runResponseRules_cons (scope : RuleScope) (clock : Nat → Instant) (place : Nat)
    (rule : Rule) (rules : List Rule) (body : Body) :
    (runResponseRules scope clock place (rule :: rules) body).events =
      rule.responseEvents (clock place) body ++
        scope.outcomeEvent rule ((rule.onResponse (clock place)).on body).1 ::
          (runResponseRules scope clock (place + 1) rules
            ((rule.onResponse (clock place)).on body).2).events := by
  rw [runResponseRules]
  simp

/-! ### The stages -/

def arrival (shown : Bool) (id : Uuid) (request : Request) : List Event :=
  .requestArrived id request.method request.uri.path (request.uri.query.getD "")
    (request.headers.names.map (·.text)) request.body.size ::
      if shown then [.requestBody id (Text.lossy request.body)] else []

def departure (shown : Bool) (id : Uuid) (routeId : Option String) (response : Response) : List Event :=
  .responseLeaving id routeId response.status response.body.size ::
    if shown then [.responseBody id (Text.lossy response.body)] else []

/-- What is reported of a body that is too large for the rules that may touch it. -/
def bodyWarning (id : Uuid) (route : Route) (limit : Nat) (request : Request) : List Event :=
  match bufferFor route.requestRules request.body limit with
  | some (.error large) => [.requestTooLarge id route.id large.size large.limit]
  | _ => []

/-- What is reported while a request meets its route. -/
def routing (table : Route.Table) (limit : Nat) (id : Uuid) (request : Request) : List Event :=
  match table.resolve request.uri.path with
  | none => [.noRoute id request.uri.path]
  | some route =>
    .routeMatched id route.id route.requestRules.length :: (bodyWarning id route limit request ++
      (runRequestRules ⟨id, route.id, .request⟩ route.requestRules
        (draftOf route.requestRules limit request)).events)

theorem events_requestStage (table : Route.Table) (limit : Nat) (around : Surroundings) (next : Handler)
    (context : Context) (request : Request) (fresh : context.route = none) :
    ((requestStage table limit).process around next context request).events =
      routing table limit context.correlationId request ++
        match sent table limit request with
        | .ok onward => (next { context with route := table.resolve request.uri.path } onward).events
        | .error _ => [] := by
  unfold routing sent sentBy
  cases found : table.resolve request.uri.path with
  | none =>
    have same : { context with route := none } = context := by rw [← fresh]
    simp [requestStage, found, same]
  | some route =>
    unfold bodyWarning
    cases held : bufferFor route.requestRules request.body limit with
    | none =>
      cases ended : Rule.fatalError route.requestRules (draftOf route.requestRules limit request) <;>
        simp [requestStage, found, held, result_runRequestRules, ended]
    | some collected =>
      cases collected <;>
        cases ended : Rule.fatalError route.requestRules (draftOf route.requestRules limit request) <;>
          simp [requestStage, found, held, result_runRequestRules, ended]

theorem events_responseStage (table : Route.Table) (limit : Nat) (around : Surroundings)
    (forwarder : Forwarder) (context : Context) (request : Request) :
    ((responseStage table limit).process around forwarder.handler context request).events =
      ((forwarder (Forward.dispatch ⟨context, request⟩)).map fun response =>
        (transformResponse table limit around.clock request.uri.path context.correlationId
          response).events).getD [] := by
  show (forwarder.handler context request >>= _).events = _
  rw [Run.events_bind]
  show [] ++ (((forwarder _).map _).map _).getD [] = _
  cases forwarder (Forward.dispatch ⟨context, request⟩) <;> simp [result_transformResponse]

theorem events_loggingStage (bodies : Bool) (around : Surroundings) (next : Handler) (context : Context)
    (request : Request) :
    let shown := showsBodies bodies around.verbosity
    let id := context.correlationId
    ((loggingStage bodies).process around next context request).events =
      arrival shown id request ++ (next context request).events ++
        ((next context request).result.map fun (context, response) =>
          departure shown id context.routeId response).getD [] := by
  intro shown id
  unfold arrival departure
  cases brought : showsBodies bodies around.verbosity <;>
    cases ended : (next context request).result <;> simp [shown, id, loggingStage, brought, ended]

theorem events_identityStage (trust : Bool) (around : Surroundings) (next : Handler) (context : Context)
    (request : Request) :
    let id := chosenId trust around.freshId request
    ((identityStage trust).process around next context request).events =
      (next { context with correlationId := id } { request with id := some id }).events := by
  intro id
  show (next _ _ >>= _).events = _
  rw [Run.events_bind]
  cases (next { context with correlationId := id } { request with id := some id }).result <;> simp [id]

end Exchange

namespace Gateway
open Exchange

variable {table : Route.Table} {settings : GatewaySettings} {world : World} {request : Request}

/-- The events of a gateway are those of its third stage between an arrival and a departure. -/
theorem events_handle (table : Route.Table) (settings : GatewaySettings) (world : World)
    (forwarder : Forwarder) (request : Request) :
    let shown := showsBodies settings.logBodies world.verbosity
    let id := exchangeId settings world request
    let rest := (requestStage table settings.maxBodyBytes).process (world.at 2)
      ((responseStage table settings.maxBodyBytes).process (world.at 3) forwarder.handler)
      ⟨id, none⟩ { request with id := some id }
    ((ofTable table settings).handle world forwarder request).events =
      arrival shown id request ++ rest.events ++
        (rest.result.map fun (context, response) => departure shown id context.routeId response).getD [] := by
  intro shown id rest
  rw [handle_eq_stages, Run.events_bind]
  have silent : ∀ result : Option (Context × Response),
      (result.map fun x => (pure x.2 : Run Response).events).getD [] = [] := by
    intro result
    cases result <;> rfl
  refine (congrArg _ (silent _)).trans ((List.append_nil _).trans ?_)
  rw [events_identityStage, events_loggingStage]
  rfl

theorem events_handle_of_error {error : RuleError}
    (ended : onward table settings world request = .error error) (forwarder : Forwarder) :
    let shown := showsBodies settings.logBodies world.verbosity
    let id := exchangeId settings world request
    ((ofTable table settings).handle world forwarder request).events =
      arrival shown id request ++ routing table settings.maxBodyBytes id request ++
        departure shown id ((table.resolve request.uri.path).map (·.id))
          (Response.ofError error.status error.code error.message) := by
  intro shown id
  have events := events_requestStage table settings.maxBodyBytes (world.at 2)
    ((responseStage table settings.maxBodyBytes).process (world.at 3) forwarder.handler) ⟨id, none⟩
    { request with id := some id } rfl
  have course := requestStage_course table settings.maxBodyBytes (world.at 2)
    ((responseStage table settings.maxBodyBytes).process (world.at 3) forwarder.handler) ⟨id, none⟩
    { request with id := some id } rfl
  unfold onward at ended
  rw [ended] at events course
  rw [events_handle, events, course.2, List.append_nil]
  rfl

theorem events_handle_of_onward {request' : Request}
    (passed : onward table settings world request = .ok request') (forwarder : Forwarder) :
    let shown := showsBodies settings.logBodies world.verbosity
    let limit := settings.maxBodyBytes
    let id := exchangeId settings world request
    let forward : Forward := ⟨⟨id, table.resolve request.uri.path⟩, request'⟩
    ((ofTable table settings).handle world forwarder request).events =
      arrival shown id request ++ routing table limit id request ++
        ((forwarder forward.dispatch).map fun response =>
          (transformResponse table limit (world.clock 3) request.uri.path id response).events ++
            departure shown id ((table.resolve request.uri.path).map (·.id))
              (answered table limit (world.clock 3) request.uri.path response)).getD [] := by
  intro shown limit id forward
  have events := events_requestStage table limit (world.at 2)
    ((responseStage table limit).process (world.at 3) forwarder.handler) ⟨id, none⟩
    { request with id := some id } rfl
  have course := requestStage_course table limit (world.at 2)
    ((responseStage table limit).process (world.at 3) forwarder.handler) ⟨id, none⟩
    { request with id := some id } rfl
  have last := responseStage_course table limit (world.at 3) forwarder forward.context request'
  have lastEvents := events_responseStage table limit (world.at 3) forwarder forward.context request'
  unfold onward at passed
  have path := path_sent passed
  rw [passed] at events course
  rw [events_handle, events, course.2]
  show _ ++ (_ ++ ((responseStage ..).process _ _ forward.context request').events) ++
    ((((responseStage ..).process _ _ forward.context request').result).map _).getD [] = _
  rw [last.2, lastEvents, path]
  have regroup : ∀ before routed after left : List Event,
      before ++ (routed ++ after) ++ left = before ++ routed ++ (after ++ left) := by
    intro before routed after left
    simp only [List.append_assoc]
  cases forwarder forward.dispatch with
  | none => exact regroup _ _ [] []
  | some response => exact regroup ..

end Gateway
end Relay
