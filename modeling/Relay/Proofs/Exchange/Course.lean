import Relay.Exchange.Gateway
import Relay.Proofs.Rule.Sequence

/-!
# The course of an exchange

What a gateway forwards and what it answers, apart from what it reports. `forwards_handle` and
`result_handle` say it in terms of `sent`, the request that goes on or the error that ends the exchange, and
`answered`, the response after the rules for responses.
-/

namespace Relay
open Http

def Route.Table.requestRules (table : Route.Table) (path : String) : List Rule :=
  ((table.resolve path).map (·.requestRules)).getD []

def Route.Table.responseRules (table : Route.Table) (path : String) : List Rule :=
  ((table.resolve path).map (·.responseRules)).getD []

/-- The table of one route, for every path. -/
def Route.Table.always (route : Route) : Route.Table := ⟨[⟨⟨.catchAll, []⟩, route⟩]⟩

@[simp] theorem Route.Table.resolve_always (route : Route) (path : String) :
    (always route).resolve path = some route := rfl

/-- A world in which every identifier is zero and no time passes. -/
def World.still : World := ⟨none, fun _ => ⟨0⟩, fun _ _ => ⟨0, 0⟩⟩

def Http.Request.root (headers : Headers) (body : ByteArray) : Request where
  method := "POST"
  uri := ⟨none, none, "/", none, by decide, by decide⟩
  headers := headers
  body := body

namespace Exchange

/-! ### Runs of rules -/

@[simp] theorem forwards_notes (scope : RuleScope) (rule : Rule) (result : Except RuleError Outcome) :
    (Run.note (scope.notes rule result)).forwards = [] := by
  unfold RuleScope.notes
  repeat' split
  all_goals rfl

theorem result_runRequestRules (scope : RuleScope) (rules : List Rule) (draft : RequestDraft) :
    (runRequestRules scope rules draft).result =
      some (match Rule.fatalError rules draft with
        | some error => .error error
        | none => .ok (Rule.draftAfter rules draft)) := by
  induction rules generalizing draft with
  | nil => rfl
  | cons rule rules ih =>
    rw [runRequestRules, Rule.fatalError_cons, Rule.draftAfter_cons]
    rcases rule.onRequest.on draft with ⟨error | outcome, after⟩
    · by_cases fatal : error.isFatal <;> simp [fatal, ih]
    · simp [ih]

theorem forwards_runRequestRules (scope : RuleScope) (rules : List Rule) (draft : RequestDraft) :
    (runRequestRules scope rules draft).forwards = [] := by
  induction rules generalizing draft with
  | nil => rfl
  | cons rule rules ih =>
    rw [runRequestRules]
    rcases rule.onRequest.on draft with ⟨error | outcome, after⟩
    · by_cases fatal : error.isFatal <;> simp [fatal, ih]
    · simp [ih]

theorem result_runResponseRules (scope : RuleScope) (clock : Nat → Instant) (place : Nat)
    (rules : List Rule) (body : Body) :
    (runResponseRules scope clock place rules body).result =
      some (Rule.bodyAfter clock place rules body) := by
  induction rules generalizing place body with
  | nil => rfl
  | cons rule rules ih => simp [runResponseRules, Rule.bodyAfter, ih]

theorem forwards_runResponseRules (scope : RuleScope) (clock : Nat → Instant) (place : Nat)
    (rules : List Rule) (body : Body) : (runResponseRules scope clock place rules body).forwards = [] := by
  induction rules generalizing place body with
  | nil => rfl
  | cons rule rules ih => simp [runResponseRules, ih]

/-! ### The two transformations -/

theorem heldBody_eq (rules : List Rule) (bytes : ByteArray) (limit : Nat) :
    heldBody rules bytes limit =
      if rules.any (·.touchesBody) = true ∧ bytes.size ≤ limit then some (.ofBytes bytes) else none := by
  unfold heldBody bufferFor Body.collect
  by_cases touched : rules.any (·.touchesBody) = true
  · by_cases small : bytes.size ≤ limit
    · simp [touched, small, Nat.not_lt.mpr small]
    · simp [touched, small, Nat.lt_of_not_le small]
  · simp [touched]

theorem body_draftOf (rules : List Rule) (limit : Nat) (request : Request) :
    (draftOf rules limit request).body = none ∨
      (draftOf rules limit request).body = some (.ofBytes request.body) := by
  rw [draftOf, heldBody_eq]
  split
  · exact .inr rfl
  · exact .inl rfl

/-- The request that goes on after some rules, or the error that ends the exchange. -/
def sentBy (rules : List Rule) (limit : Nat) (request : Request) : Except RuleError Request :=
  let draft := draftOf rules limit request
  match Rule.fatalError rules draft with
  | some error => .error error
  | none => .ok (finishRequest request (Rule.draftAfter rules draft))

theorem sentBy_eq_ok {rules : List Rule} {limit : Nat} {request request' : Request} :
    sentBy rules limit request = .ok request' ↔
      Rule.fatalError rules (draftOf rules limit request) = none ∧
        finishRequest request (Rule.draftAfter rules (draftOf rules limit request)) = request' := by
  cases ended : Rule.fatalError rules (draftOf rules limit request) <;> simp [sentBy, ended]

theorem sentBy_eq_error {rules : List Rule} {limit : Nat} {request : Request} {error : RuleError} :
    sentBy rules limit request = .error error ↔
      Rule.fatalError rules (draftOf rules limit request) = some error := by
  cases ended : Rule.fatalError rules (draftOf rules limit request) <;> simp [sentBy, ended]

def sent (table : Route.Table) (limit : Nat) (request : Request) : Except RuleError Request :=
  match table.resolve request.uri.path with
  | none => .ok request
  | some route => sentBy route.requestRules limit request

/-- A request without a route is one whose route has no rules. -/
theorem sent_eq_sentBy (table : Route.Table) (limit : Nat) (request : Request) :
    sent table limit request = sentBy (table.requestRules request.uri.path) limit request := by
  unfold sent Route.Table.requestRules
  cases table.resolve request.uri.path <;> rfl

def answeredBy (rules : List Rule) (limit : Nat) (clock : Nat → Instant) (response : Response) : Response :=
  if limit < response.body.size ∨ (Text.ofBytes? response.body).isNone then response
  else finishResponse response (Rule.bodyAfter clock 0 rules (.ofBytes response.body))

def answered (table : Route.Table) (limit : Nat) (clock : Nat → Instant) (path : String)
    (response : Response) : Response :=
  match table.resolve path with
  | none => response
  | some route => answeredBy route.responseRules limit clock response

theorem answered_eq_answeredBy (table : Route.Table) (limit : Nat) (clock : Nat → Instant) (path : String)
    (response : Response) :
    answered table limit clock path response =
      answeredBy (table.responseRules path) limit clock response := by
  unfold answered Route.Table.responseRules
  cases table.resolve path with
  | none => exact (ite_self response).symm
  | some route => rfl

theorem uri_finishRequest (request : Request) (draft : RequestDraft) :
    (finishRequest request draft).uri = draft.uri := by
  unfold finishRequest
  split <;> rfl

/-- Rules leave the path of a request, so its response meets the route that it has met. -/
theorem path_sent {table : Route.Table} {limit : Nat} {request request' : Request}
    (passed : sent table limit request = .ok request') : request'.uri.path = request.uri.path := by
  unfold sent at passed
  split at passed
  · rw [← Except.ok.inj passed]
  · obtain ⟨-, rfl⟩ := sentBy_eq_ok.mp passed
    rw [uri_finishRequest]
    exact (Rule.uri_draftAfter ..).2.2

theorem requestStage_course (table : Route.Table) (limit : Nat) (around : Surroundings) (next : Handler)
    (context : Context) (request : Request) (fresh : context.route = none) :
    let run := (requestStage table limit).process around next context request
    let context := { context with route := table.resolve request.uri.path }
    run.forwards = (match sent table limit request with
      | .ok onward => (next context onward).forwards
      | .error _ => []) ∧
    run.result = match sent table limit request with
      | .ok onward => (next context onward).result
      | .error error => some (context, Response.ofError error.status error.code error.message) := by
  unfold sent sentBy
  cases found : table.resolve request.uri.path with
  | none =>
    have same : { context with route := none } = context := by rw [← fresh]
    simp [requestStage, found, same]
  | some route =>
    cases held : bufferFor route.requestRules request.body limit with
    | none =>
      cases ended : Rule.fatalError route.requestRules (draftOf route.requestRules limit request) <;>
        simp [requestStage, found, held, result_runRequestRules, forwards_runRequestRules, ended]
    | some collected =>
      cases collected <;>
        cases ended : Rule.fatalError route.requestRules (draftOf route.requestRules limit request) <;>
          simp [requestStage, found, held, result_runRequestRules, forwards_runRequestRules, ended]

theorem result_transformResponse (table : Route.Table) (limit : Nat) (clock : Nat → Instant)
    (path : String) (id : Uuid) (response : Response) :
    (transformResponse table limit clock path id response).result =
      some (answered table limit clock path response) := by
  unfold transformResponse answered answeredBy Body.collect
  by_cases large : limit < response.body.size
  · cases table.resolve path <;> simp [large]
  · cases table.resolve path with
    | none => simp [large]
    | some route =>
      cases text : Text.ofBytes? response.body with
      | none => cases rules : route.hasResponseRules <;> simp [large, Body.text?, Body.ofBytes, text, rules]
      | some text' =>
        cases rules : route.hasResponseRules with
        | true => simp [large, Body.text?, Body.ofBytes, text, rules, result_runResponseRules]
        | false =>
          have none : route.responseRules = [] := by simpa [Route.hasResponseRules] using rules
          simp [large, rules, none, Rule.bodyAfter, finishResponse, Body.ofBytes, Body.frame]

theorem forwards_transformResponse (table : Route.Table) (limit : Nat) (clock : Nat → Instant)
    (path : String) (id : Uuid) (response : Response) :
    (transformResponse table limit clock path id response).forwards = [] := by
  unfold transformResponse
  repeat' split
  all_goals simp [forwards_runResponseRules, result_runResponseRules]

/-! ### The other stages -/

def echoed (id : Uuid) (response : Response) : Response :=
  { response with headers := response.headers.insert .correlationId id.text.toUTF8 }

theorem identityStage_course (trust : Bool) (around : Surroundings) (next : Handler) (context : Context)
    (request : Request) :
    let run := (identityStage trust).process around next context request
    let id := chosenId trust around.freshId request
    let last := next { context with correlationId := id } { request with id := some id }
    run.forwards = last.forwards ∧
      run.result = last.result.map fun (context, response) => (context, echoed id response) := by
  intro run id last
  refine ⟨Run.forwards_bind_of_silent fun _ => rfl, (Run.result_bind _ _).trans ?_⟩
  show last.result.bind _ = _
  cases last.result <;> rfl

theorem loggingStage_course (bodies : Bool) (around : Surroundings) (next : Handler) (context : Context)
    (request : Request) :
    let run := (loggingStage bodies).process around next context request
    run.forwards = (next context request).forwards ∧ run.result = (next context request).result := by
  intro run
  cases shown : showsBodies bodies around.verbosity <;>
    cases ended : (next context request).result <;> simp [run, loggingStage, shown, ended]

theorem responseStage_course (table : Route.Table) (limit : Nat) (around : Surroundings)
    (forwarder : Forwarder) (context : Context) (request : Request) :
    let run := (responseStage table limit).process around forwarder.handler context request
    run.forwards = [⟨context, request⟩] ∧
      run.result = (forwarder (Forward.dispatch ⟨context, request⟩)).map fun response =>
        (context, answered table limit around.clock request.uri.path response) := by
  intro run
  refine ⟨Run.forwards_bind_of_silent fun (context, response) => ?_, (Run.result_bind _ _).trans ?_⟩
  · exact (Run.forwards_bind_of_silent fun _ => rfl).trans (forwards_transformResponse ..)
  · show ((forwarder _).map _).bind _ = _
    cases forwarder (Forward.dispatch ⟨context, request⟩) <;> simp [result_transformResponse]

end Exchange

namespace Gateway
open Exchange

def exchangeId (settings : GatewaySettings) (world : World) (request : Request) : Uuid :=
  chosenId settings.trustIncomingIds (world.freshId 0) request

/-- The request that goes on, which carries the identifier of its exchange, or the error that ends it. -/
def onward (table : Route.Table) (settings : GatewaySettings) (world : World) (request : Request) :
    Except RuleError Request :=
  sent table settings.maxBodyBytes { request with id := some (exchangeId settings world request) }

theorem handle_eq_stages (table : Route.Table) (settings : GatewaySettings) (world : World)
    (forwarder : Forwarder) (request : Request) :
    (ofTable table settings).handle world forwarder request =
      (do
        let (_, response) ←
          (identityStage settings.trustIncomingIds).process (world.at 0)
            ((loggingStage settings.logBodies).process (world.at 1)
              ((requestStage table settings.maxBodyBytes).process (world.at 2)
                ((responseStage table settings.maxBodyBytes).process (world.at 3) forwarder.handler)))
            ⟨world.freshId 4, none⟩ request
        return response) := rfl

/-- The first two stages leave what is forwarded and answered to the stages behind them. They choose the
identifier of the exchange and put it on the response. -/
theorem entry_course (settings : GatewaySettings) (world : World) (inner : Handler) (request : Request) :
    let id := exchangeId settings world request
    let run : Run Response := do
      let (_, response) ←
        (identityStage settings.trustIncomingIds).process (world.at 0)
          ((loggingStage settings.logBodies).process (world.at 1) inner) ⟨world.freshId 4, none⟩ request
      return response
    let rest := inner ⟨id, none⟩ { request with id := some id }
    run.forwards = rest.forwards ∧
      run.result = rest.result.map fun (_, response) => echoed id response := by
  intro id run rest
  have logged := loggingStage_course settings.logBodies (world.at 1) inner ⟨id, none⟩
    { request with id := some id }
  have identified := identityStage_course settings.trustIncomingIds (world.at 0)
    ((loggingStage settings.logBodies).process (world.at 1) inner) ⟨world.freshId 4, none⟩ request
  have result := identified.2.trans (congrArg (Option.map _) logged.2)
  refine ⟨(Run.forwards_bind_of_silent fun _ => rfl).trans (identified.1.trans logged.1), ?_⟩
  rw [Run.result_bind, result]
  show (rest.result.map _).bind _ = _
  cases rest.result <;> rfl

/-- The run of a gateway is that of its third stage, which stands before the last one and the forwarder,
with the identifier put on the response. -/
theorem handle_course (table : Route.Table) (settings : GatewaySettings) (world : World)
    (forwarder : Forwarder) (request : Request) :
    let id := exchangeId settings world request
    let run := (ofTable table settings).handle world forwarder request
    let rest := (requestStage table settings.maxBodyBytes).process (world.at 2)
      ((responseStage table settings.maxBodyBytes).process (world.at 3) forwarder.handler)
      ⟨id, none⟩ { request with id := some id }
    run.forwards = rest.forwards ∧
      run.result = rest.result.map fun (_, response) => echoed id response :=
  entry_course settings world _ request

/-- A request that goes on is forwarded once, and the response to it is the answer. -/
theorem handle_of_onward {table : Route.Table} {settings : GatewaySettings} {world : World}
    {request request' : Request} (passed : onward table settings world request = .ok request')
    (forwarder : Forwarder) :
    let forward : Forward :=
      ⟨⟨exchangeId settings world request, table.resolve request.uri.path⟩, request'⟩
    let run := (ofTable table settings).handle world forwarder request
    run.forwards = [forward] ∧
      run.result = (forwarder forward.dispatch).map fun response =>
        echoed (exchangeId settings world request)
          (answered table settings.maxBodyBytes (world.clock 3) request.uri.path response) := by
  intro forward run
  obtain ⟨forwards, result⟩ := handle_course table settings world forwarder request
  obtain ⟨handed, ended⟩ := requestStage_course table settings.maxBodyBytes (world.at 2)
    ((responseStage table settings.maxBodyBytes).process (world.at 3) forwarder.handler)
    ⟨exchangeId settings world request, none⟩
    { request with id := some (exchangeId settings world request) } rfl
  have last := responseStage_course table settings.maxBodyBytes (world.at 3) forwarder
    forward.context request'
  unfold onward at passed
  have path := path_sent passed
  rw [passed] at handed ended
  refine ⟨forwards.trans (handed.trans last.1), ?_⟩
  rw [result, ended]
  show ((((responseStage ..).process _ _ forward.context request').result).map _) = _
  rw [last.2, Option.map_map, path]
  rfl

/-- An exchange that is ended by an error is answered with it, and nothing is forwarded. -/
theorem handle_of_error {table : Route.Table} {settings : GatewaySettings} {world : World}
    {request : Request} {error : RuleError} (ended : onward table settings world request = .error error)
    (forwarder : Forwarder) :
    let run := (ofTable table settings).handle world forwarder request
    run.forwards = [] ∧
      run.result = some (echoed (exchangeId settings world request)
        (Response.ofError error.status error.code error.message)) := by
  intro run
  obtain ⟨forwards, result⟩ := handle_course table settings world forwarder request
  obtain ⟨handed, answer⟩ := requestStage_course table settings.maxBodyBytes (world.at 2)
    ((responseStage table settings.maxBodyBytes).process (world.at 3) forwarder.handler)
    ⟨exchangeId settings world request, none⟩
    { request with id := some (exchangeId settings world request) } rfl
  unfold onward at ended
  rw [ended] at handed answer
  exact ⟨forwards.trans handed, by rw [result, answer]; rfl⟩

theorem mem_forwards_of_onward {table : Route.Table} {settings : GatewaySettings} {world : World}
    {request request' : Request} (passed : onward table settings world request = .ok request')
    (forwarder : Forwarder) :
    (⟨⟨exchangeId settings world request, table.resolve request.uri.path⟩, request'⟩ : Forward) ∈
      ((ofTable table settings).handle world forwarder request).forwards := by
  rw [(handle_of_onward passed forwarder).1]
  exact List.mem_singleton_self _

theorem of_mem_forwards {table : Route.Table} {settings : GatewaySettings} {world : World}
    {forwarder : Forwarder} {request : Request} {forward : Forward}
    (handed : forward ∈ ((ofTable table settings).handle world forwarder request).forwards) :
    ∃ request', onward table settings world request = .ok request' ∧
      forward = ⟨⟨exchangeId settings world request, table.resolve request.uri.path⟩, request'⟩ := by
  cases course : onward table settings world request with
  | error error =>
    rw [(handle_of_error course forwarder).1] at handed
    cases handed
  | ok request' =>
    rw [(handle_of_onward course forwarder).1] at handed
    exact ⟨request', rfl, List.mem_singleton.mp handed⟩

theorem length_forwards_le (table : Route.Table) (settings : GatewaySettings) (world : World)
    (forwarder : Forwarder) (request : Request) :
    ((ofTable table settings).handle world forwarder request).forwards.length ≤ 1 := by
  cases passed : onward table settings world request with
  | ok request' => simp [(handle_of_onward passed forwarder).1]
  | error error => simp [(handle_of_error passed forwarder).1]

theorem forwards_eq_nil_iff (table : Route.Table) (settings : GatewaySettings) (world : World)
    (forwarder : Forwarder) (request : Request) :
    ((ofTable table settings).handle world forwarder request).forwards = [] ↔
      ∃ error, onward table settings world request = .error error := by
  cases passed : onward table settings world request with
  | ok request' => simp [(handle_of_onward passed forwarder).1]
  | error error => simp [(handle_of_error passed forwarder).1]

theorem onward_of_resolve {table : Route.Table} (settings : GatewaySettings) (world : World)
    (request : Request) {route : Route} (found : table.resolve request.uri.path = some route)
    (passed : Rule.fatalError route.requestRules
      (draftOf route.requestRules settings.maxBodyBytes request) = none) :
    let identified := { request with id := some (exchangeId settings world request) }
    onward table settings world request = .ok (finishRequest identified
      (Rule.draftAfter route.requestRules (draftOf route.requestRules settings.maxBodyBytes request))) := by
  intro identified
  simp only [onward, sent, found]
  exact sentBy_eq_ok.mpr ⟨passed, rfl⟩

theorem forwards_always (route : Route) (settings : GatewaySettings) (world : World) {request : Request}
    (passed : Rule.fatalError route.requestRules
      (draftOf route.requestRules settings.maxBodyBytes request) = none) (forwarder : Forwarder) :
    let identified := { request with id := some (exchangeId settings world request) }
    ((ofTable (.always route) settings).handle world forwarder request).forwards =
      [⟨⟨exchangeId settings world request, some route⟩, finishRequest identified
        (Rule.draftAfter route.requestRules (draftOf route.requestRules settings.maxBodyBytes request))⟩] := by
  intro identified
  have onwards := onward_of_resolve settings world request (Route.Table.resolve_always route _) passed
  exact (handle_of_onward onwards forwarder).1

theorem onward_of_forwards {table : Route.Table} {settings : GatewaySettings} {world : World}
    {forwarder : Forwarder} {request : Request} {forward : Forward}
    (handed : ((ofTable table settings).handle world forwarder request).forwards = [forward]) :
    ∃ request', onward table settings world request = .ok request' := by
  cases ended : onward table settings world request with
  | ok request' => exact ⟨request', rfl⟩
  | error error => exact absurd ((handle_of_error ended forwarder).1.symm.trans handed) nofun

end Gateway
end Relay
