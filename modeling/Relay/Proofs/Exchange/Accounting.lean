import Relay.Proofs.Exchange.RulesRun
import Relay.Proofs.Rule.Plain

/-!
# The account of the rules

The log gives account of the rules of an exchange: one event for each rule that runs, in the order of the rules, with
what came of it. `rules_account_for_themselves` says which events these are, and `Tells` what is to be learned from
one.
-/

namespace Relay
open Http

namespace Rule

/-- The rules that a phase knows what to do with. -/
inductive SupportedIn : Phase → Rule → Prop
  | validateHeader (header : Option String) (required : Bool) :
      SupportedIn .request (.validateHeader header required)
  | addHeader (header value : Option String) : SupportedIn .request (.addHeader header value)
  | modifyJsonBody (path expected value : Option String) :
      SupportedIn .request (.modifyJsonBody path expected value)
  | modifyQueryParam (name value : Option String) : SupportedIn .request (.modifyQueryParam name value)
  | maskSensitiveData (paths : List String) : SupportedIn .request (.maskSensitiveData paths)
  | removeJsonField (path : Option String) : SupportedIn .request (.removeJsonField path)
  | renameJsonField (old new : Option String) : SupportedIn .request (.renameJsonField old new)
  | injectMetadata (path : Option String) (metadata : Json.Members Json) :
      SupportedIn .response (.injectMetadata path metadata)
  | modifyJsonValue (path expected value : Option String) :
      SupportedIn .response (.modifyJsonValue path expected value)

theorem supportedIn_request_iff {rule : Rule} : rule.SupportedIn .request ↔ rule.forRequests = true := by
  constructor
  · intro supported
    cases supported <;> rfl
  · intro asked
    cases rule <;> first | constructor | cases asked

theorem supportedIn_response_iff {rule : Rule} : rule.SupportedIn .response ↔ rule.forResponses = true := by
  constructor
  · intro supported
    cases supported <;> rfl
  · intro asked
    cases rule <;> first | constructor | cases asked

/-! ### What comes of a rule -/

theorem editBody_ne_unsupported (rule : Rule) (edit : Json.Edit) (body : Body) :
    ((rule.editBody edit).on body).1 ≠ .ok .unsupported := by
  rcases edited : (rule.editBody edit).on body with ⟨result, after⟩
  cases editBody_edited edited <;> nofun

theorem onRequest_unsupported_iff (rule : Rule) (draft : RequestDraft) :
    (rule.onRequest.on draft).1 = .ok .unsupported ↔ ¬ rule.SupportedIn .request := by
  rw [supportedIn_request_iff]
  unfold onRequest
  split
  · rw [on_requireHeader]
    cases draft.headers.has _ <;> simp [forRequests]
  · rw [on_setHeader]
    split <;> simp [forRequests]
  · rw [on_setQueryParam]
    split <;> simp [forRequests]
  · split
    · rename_i edit edits
      have asked : rule.forRequests = true := by
        unfold requestEdit at edits
        split at edits <;> first | rfl | cases edits
      rw [on_onHeldBody]
      split <;> simp [asked, editBody_ne_unsupported]
    · cases rule.forRequests <;> simp

theorem onResponse_unsupported_iff (now : Instant) (rule : Rule) (body : Body) :
    ((rule.onResponse now).on body).1 = .ok .unsupported ↔ ¬ rule.SupportedIn .response := by
  rw [supportedIn_response_iff]
  unfold onResponse
  split
  · rename_i edit edits
    have asked : rule.forResponses = true := by
      unfold responseEdit at edits
      split at edits <;> first | rfl | cases edits
    simp [asked, editBody_ne_unsupported]
  · cases rule.forResponses <;> simp

/-- The text of the body of a request, if it is in memory and a text. -/
def heldText (draft : RequestDraft) : Option String := draft.body.bind (·.text?)

theorem text?_replace_ne {body : Body} {text output : String} (read : body.text? = some text)
    (different : output ≠ text) : (body.replace output.toUTF8).text? ≠ body.text? := by
  rw [text?_replace, read]
  exact fun same => different (Option.some.inj same)

theorem onRequest_changed_iff {rule : Rule} (touches : rule.touchesBody = true) {draft after : RequestDraft}
    {outcome : Outcome} (ran : rule.onRequest.on draft = (.ok outcome, after)) :
    outcome = .changed ↔ heldText after ≠ heldText draft := by
  cases onRequest_step ran with
  | kept idle => simp [idle]
  | header adds =>
    rw [adds] at touches
    cases touches
  | query sets =>
    rw [sets] at touches
    cases touches
  | body edits held read attempted different =>
    simp only [heldText, held, Option.bind_some, true_iff]
    exact text?_replace_ne read different

theorem onResponse_changed_iff {now : Instant} {rule : Rule} {body after : Body} {outcome : Outcome}
    (ran : (rule.onResponse now).on body = (.ok outcome, after)) :
    outcome = .changed ↔ after.text? ≠ body.text? := by
  cases onResponse_step ran with
  | kept idle => simp [idle]
  | changed edits read attempted different => exact iff_of_true rfl (text?_replace_ne read different)

end Rule

/-- The event that ends an exchange. -/
def Event.rejects : Event → Bool
  | requestRejected .. => true
  | _ => false

def Route.Table.routeId (table : Route.Table) (path : String) : String :=
  ((table.resolve path).map (·.id)).getD ""

namespace Exchange

/-- What an event says of a rule, for the text of the body before the rule and behind it. -/
structure Tells (scope : RuleScope) (rule : Rule) (before behind : Option String) (event : Event) : Prop where
  site : event.site? = some (scope.site rule.type)
  unknown : (∃ site, event = .ruleUnknown site) ↔ ¬ rule.SupportedIn scope.phase
  changed : rule.touchesBody = true → ∀ site changed, event = .ruleApplied site changed →
    (changed = true ↔ behind ≠ before)

theorem outcomeEvent_unknown_iff {scope : RuleScope} {rule : Rule} {result : Except RuleError Outcome} :
    (∃ site, scope.outcomeEvent rule result = .ruleUnknown site) ↔ result = .ok .unsupported := by
  rcases result with error | outcome
  · unfold RuleScope.outcomeEvent
    dsimp only
    split <;> simp
  · cases outcome <;> simp [RuleScope.outcomeEvent]

theorem of_outcomeEvent_applied {scope : RuleScope} {rule : Rule} {result : Except RuleError Outcome}
    {site : RuleSite} {changed : Bool} (applied : scope.outcomeEvent rule result = .ruleApplied site changed) :
    ∃ outcome, result = .ok outcome ∧ changed = decide (outcome = .changed) := by
  unfold RuleScope.outcomeEvent at applied
  split at applied
  · cases applied
  · cases applied
    exact ⟨_, rfl, rfl⟩
  · split at applied <;> cases applied

theorem rejects_outcomeEvent (scope : RuleScope) (rule : Rule) (result : Except RuleError Outcome) :
    (scope.outcomeEvent rule result).rejects = match result with
      | .ok _ => false
      | .error error => error.isFatal := by
  rcases result with error | outcome
  · by_cases fatal : error.isFatal = true <;> simp [RuleScope.outcomeEvent, fatal, Event.rejects]
  · cases outcome <;> rfl

theorem tells_request {scope : RuleScope} (phase : scope.phase = .request) (rule : Rule) (draft : RequestDraft) :
    Tells scope rule (Rule.heldText draft) (Rule.heldText (rule.onRequest.on draft).2)
      (scope.outcomeEvent rule (rule.onRequest.on draft).1) where
  site := site?_requestEvent scope rule draft
  unknown := by rw [outcomeEvent_unknown_iff, phase, Rule.onRequest_unsupported_iff]
  changed touches site changed applied := by
    obtain ⟨outcome, passed, rfl⟩ := of_outcomeEvent_applied applied
    rw [decide_eq_true_iff]
    exact Rule.onRequest_changed_iff touches (Prod.ext passed rfl)

theorem tells_response {scope : RuleScope} (phase : scope.phase = .response) (now : Instant) (rule : Rule)
    (body : Body) :
    Tells scope rule body.text? ((rule.onResponse now).on body).2.text?
      (scope.outcomeEvent rule ((rule.onResponse now).on body).1) where
  site := site?_responseEvent scope now rule body
  unknown := by rw [outcomeEvent_unknown_iff, phase, Rule.onResponse_unsupported_iff]
  changed _ site changed applied := by
    obtain ⟨outcome, passed, rfl⟩ := of_outcomeEvent_applied applied
    rw [decide_eq_true_iff]
    exact Rule.onResponse_changed_iff (Prod.ext passed rfl)

/-! ### Accounts -/

/-- The entries of a list up to the first that has a property, with it. -/
def throughFirst {α : Type} (p : α → Bool) : List α → List α
  | [] => []
  | x :: xs => if p x then [x] else x :: throughFirst p xs

/-- What comes of each rule for a request, on what the rules before it leave. -/
def requestAccount (scope : RuleScope) (rules : List Rule) (draft : RequestDraft) : List Event :=
  rules.mapIdx fun i rule =>
    scope.outcomeEvent rule (rule.onRequest.on (Rule.draftAfter (rules.take i) draft)).1

/-- What comes of each rule for a response, the first of which stands at a place of the list. -/
def responseAccount (scope : RuleScope) (clock : Nat → Instant) (place : Nat) (rules : List Rule) (body : Body) :
    List Event :=
  rules.mapIdx fun i rule => scope.outcomeEvent rule
    ((rule.onResponse (clock (place + i))).on (Rule.bodyAfter clock place (rules.take i) body)).1

theorem requestAccount_cons (scope : RuleScope) (rule : Rule) (rules : List Rule) (draft : RequestDraft) :
    requestAccount scope (rule :: rules) draft =
      scope.outcomeEvent rule (rule.onRequest.on draft).1 ::
        requestAccount scope rules (rule.onRequest.on draft).2 := by
  simp [requestAccount, List.mapIdx_cons]

theorem responseAccount_cons (scope : RuleScope) (clock : Nat → Instant) (place : Nat) (rule : Rule)
    (rules : List Rule) (body : Body) :
    responseAccount scope clock place (rule :: rules) body =
      scope.outcomeEvent rule ((rule.onResponse (clock place)).on body).1 ::
        responseAccount scope clock (place + 1) rules ((rule.onResponse (clock place)).on body).2 := by
  simp [responseAccount, List.mapIdx_cons, Rule.bodyAfter, Nat.add_assoc, Nat.add_comm 1]

/-- The events that tell of a rule. -/
def ruleEvents (events : List Event) : List Event := events.filter (·.site?.isSome)

theorem ruleEvents_append (events more : List Event) :
    ruleEvents (events ++ more) = ruleEvents events ++ ruleEvents more := List.filter_append ..

theorem ruleEvents_cons {event : Event} {site : RuleSite} (tells : event.site? = some site) (events : List Event) :
    ruleEvents (event :: events) = event :: ruleEvents events :=
  List.filter_cons_of_pos (by rw [tells]; rfl)

theorem ruleEvents_of_exchange {events : List Event} {id : Uuid}
    (whole : ∀ event ∈ events, event.TellsOfExchange id) : ruleEvents events = [] := by
  refine List.filter_eq_nil_iff.mpr fun event told => ?_
  simp [(whole event told).1]

theorem ruleEvents_requestEvents (rule : Rule) (draft : RequestDraft) :
    ruleEvents (rule.requestEvents draft) = [] := by
  refine List.filter_eq_nil_iff.mpr fun event told => ?_
  obtain ⟨old, new, count, -, rfl⟩ := Rule.mem_requestEvents told
  nofun

theorem ruleEvents_runRequestRules (scope : RuleScope) (rules : List Rule) (draft : RequestDraft) :
    ruleEvents (runRequestRules scope rules draft).events =
      throughFirst Event.rejects (requestAccount scope rules draft) := by
  induction rules generalizing draft with
  | nil => rfl
  | cons rule rules ih =>
    rw [events_runRequestRules_cons, ruleEvents_append, ruleEvents_requestEvents, List.nil_append,
      ruleEvents_cons (site?_requestEvent ..), requestAccount_cons, throughFirst, rejects_outcomeEvent]
    rcases (rule.onRequest.on draft).1 with error | outcome
    · by_cases fatal : error.isFatal = true
      · simp [fatal, ruleEvents]
      · simp [fatal, ih]
    · simp [ih]

theorem ruleEvents_runResponseRules (scope : RuleScope) (clock : Nat → Instant) (place : Nat)
    (rules : List Rule) (body : Body) :
    ruleEvents (runResponseRules scope clock place rules body).events =
      responseAccount scope clock place rules body := by
  induction rules generalizing place body with
  | nil => rfl
  | cons rule rules ih =>
    rw [events_runResponseRules_cons, Rule.responseEvents_eq_nil, List.nil_append,
      ruleEvents_cons (site?_responseEvent ..), responseAccount_cons, ih]

/-- The account of a request has a rejection if the run of its rules ends with an error. -/
theorem rejected_iff {scope : RuleScope} {rules : List Rule} {draft : RequestDraft} :
    (∃ event ∈ requestAccount scope rules draft, event.rejects = true) ↔
      ∃ error, Rule.fatalError rules draft = some error := by
  induction rules generalizing draft with
  | nil => simp [requestAccount, Rule.fatalError]
  | cons rule rules ih =>
    simp only [requestAccount_cons, List.mem_cons, exists_eq_or_imp, ih, rejects_outcomeEvent,
      Rule.fatalError_cons]
    rcases (rule.onRequest.on draft).1 with error | outcome
    · by_cases fatal : error.isFatal = true <;> simp [fatal]
    · simp

theorem tells_requestAccount {scope : RuleScope} (phase : scope.phase = .request) {rules : List Rule} {i : Nat}
    {rule : Rule} (placed : rules[i]? = some rule) (draft : RequestDraft) :
    ∃ event, (requestAccount scope rules draft)[i]? = some event ∧
      Tells scope rule (Rule.heldText (Rule.draftAfter (rules.take i) draft))
        (Rule.heldText (Rule.draftAfter (rules.take (i + 1)) draft)) event := by
  refine ⟨_, by rw [requestAccount, List.getElem?_mapIdx, placed]; rfl, ?_⟩
  rw [Rule.draftAfter_take_succ placed]
  exact tells_request phase rule _

theorem tells_responseAccount {scope : RuleScope} (phase : scope.phase = .response) (clock : Nat → Instant)
    {rules : List Rule} {i : Nat} {rule : Rule} (placed : rules[i]? = some rule) (body : Body) :
    ∃ event, (responseAccount scope clock 0 rules body)[i]? = some event ∧
      Tells scope rule (Rule.bodyAfter clock 0 (rules.take i) body).text?
        (Rule.bodyAfter clock 0 (rules.take (i + 1)) body).text? event := by
  refine ⟨_, by rw [responseAccount, List.getElem?_mapIdx, placed]; rfl, ?_⟩
  rw [Rule.bodyAfter_take_succ clock placed]
  exact tells_response phase _ rule _

/-! ### The stages -/

/-- What comes of the rules for a response. They run on a body that is a text and not too large. -/
def replyAccount (scope : RuleScope) (clock : Nat → Instant) (rules : List Rule) (limit : Nat)
    (response : Response) : List Event :=
  if response.body.size ≤ limit ∧ (Text.ofBytes? response.body).isSome then
    responseAccount scope clock 0 rules (.ofBytes response.body)
  else []

variable {table : Route.Table} {limit : Nat} {id : Uuid}

theorem ruleEvents_routing (table : Route.Table) (limit : Nat) (id : Uuid) (request : Request) :
    ruleEvents (routing table limit id request) =
      throughFirst Event.rejects (requestAccount ⟨id, table.routeId request.uri.path, .request⟩
        (table.requestRules request.uri.path)
        (draftOf (table.requestRules request.uri.path) limit request)) := by
  unfold routing Route.Table.requestRules Route.Table.routeId
  cases table.resolve request.uri.path with
  | none => rfl
  | some route =>
    have warned : ruleEvents (bodyWarning id route limit request) = [] := by
      unfold bodyWarning
      split <;> rfl
    show ruleEvents (_ ++ (runRequestRules ..).events) = _
    rw [ruleEvents_append, warned, ruleEvents_runRequestRules]
    rfl

theorem ruleEvents_transformResponse (table : Route.Table) (limit : Nat) (clock : Nat → Instant)
    (path : String) (id : Uuid) (response : Response) :
    ruleEvents (transformResponse table limit clock path id response).events =
      replyAccount ⟨id, table.routeId path, .response⟩ clock (table.responseRules path) limit response := by
  unfold transformResponse replyAccount Route.Table.responseRules Route.Table.routeId Body.collect
  by_cases large : limit < response.body.size
  · rw [if_pos large, if_neg fun fits => absurd large (Nat.not_lt.mpr fits.1)]
    rfl
  · rw [if_neg large]
    have small := Nat.not_lt.mp large
    cases table.resolve path with
    | none => simp [small, responseAccount, ruleEvents]
    | some route =>
      cases text : Text.ofBytes? response.body with
      | none =>
        cases ruled : route.hasResponseRules <;>
          simp [small, Body.text?, Body.ofBytes, text, ruled, ruleEvents, Event.site?]
      | some text' =>
        cases ruled : route.hasResponseRules with
        | true =>
          have silent := ruleEvents_runResponseRules ⟨id, route.id, .response⟩ clock 0 route.responseRules
            (.ofBytes response.body)
          simpa [small, Body.text?, Body.ofBytes, text, ruled, result_runResponseRules] using silent
        | false =>
          have none : route.responseRules = [] := by simpa [Route.hasResponseRules] using ruled
          simp [small, ruled, none, responseAccount, ruleEvents]

end Exchange

theorem Verbosity.records_of_site {verbosity : Verbosity} (verbose : verbosity.records .debug = true)
    {event : Event} {site : RuleSite} (tells : event.site? = some site) :
    verbosity.records event.level = true := by
  cases verbosity with
  | none => cases verbose
  | some most =>
    have deep : Level.debug.rank ≤ most.rank := of_decide_eq_true verbose
    refine decide_eq_true (Nat.le_trans ?_ deep)
    cases event <;> first | cases tells; done | exact Nat.le_of_ble_eq_true rfl

namespace Exchange

theorem ruleEvents_recorded {verbosity : Verbosity} (verbose : verbosity.records .debug = true)
    (events : List Event) : ruleEvents (recorded verbosity events) = ruleEvents events := by
  rw [ruleEvents, recorded, List.filter_filter]
  refine List.filter_congr fun event _ => ?_
  cases tells : event.site? with
  | none => rfl
  | some site => exact Verbosity.records_of_site verbose tells

end Exchange

namespace Gateway
open Exchange

theorem ruleEvents_handle (table : Route.Table) (settings : GatewaySettings) (world : World)
    (forwarder : Forwarder) (request : Request) :
    let run := (ofTable table settings).handle world forwarder request
    let limit := settings.maxBodyBytes
    let scope : Phase → RuleScope := fun phase =>
      ⟨exchangeId settings world request, table.routeId request.uri.path, phase⟩
    let rules := table.requestRules request.uri.path
    let rules' := table.responseRules request.uri.path
    let replied := replyAccount (scope .response) (world.clock 3) rules' limit
    ruleEvents run.events =
      throughFirst Event.rejects (requestAccount (scope .request) rules (draftOf rules limit request)) ++
        run.forwards.flatMap fun forward => ((forwarder forward.dispatch).map replied).getD [] := by
  intro run limit scope rules rules' replied
  have arrived : ruleEvents (arrival (showsBodies settings.logBodies world.verbosity)
      (exchangeId settings world request) request) = [] := ruleEvents_of_exchange fun _ => of_mem_arrival
  have left : ∀ routeId response, ruleEvents (departure (showsBodies settings.logBodies world.verbosity)
      (exchangeId settings world request) routeId response) = [] :=
    fun _ _ => ruleEvents_of_exchange fun _ => of_mem_departure
  cases course : onward table settings world request with
  | error error =>
    simp only [run, (handle_of_error course forwarder).1, events_handle_of_error course, ruleEvents_append,
      arrived, left, ruleEvents_routing, List.nil_append, List.append_nil, List.flatMap_nil]
    rfl
  | ok request' =>
    simp only [run, (handle_of_onward course forwarder).1, events_handle_of_onward course, ruleEvents_append,
      arrived, ruleEvents_routing, List.nil_append, List.flatMap_cons, List.flatMap_nil, List.append_nil]
    refine congrArg _ ?_
    cases forwarder (Forward.dispatch
      ⟨⟨exchangeId settings world request, table.resolve request.uri.path⟩, request'⟩) with
    | none => rfl
    | some response =>
      simp only [Option.map_some, Option.getD_some, ruleEvents_append, left, ruleEvents_transformResponse,
        List.append_nil]
      rfl

/-- A log that goes down to the debug level has, for every exchange, one event for each rule for requests, in their
order and up to the rule that rejects the request. They are followed, if the request is forwarded and the response
can be read, by one for each rule for responses. An event about a rule for bodies says whether the text has become
another one, and a rule is called unknown only where its phase has no use for it. -/
theorem rules_account_for_themselves (table : Route.Table) (settings : GatewaySettings) (world : World)
    (forwarder : Forwarder) (request : Request) (verbose : world.verbosity.records .debug = true) :
    let run := (ofTable table settings).handle world forwarder request
    let limit := settings.maxBodyBytes
    let scope : Phase → RuleScope := fun phase =>
      ⟨exchangeId settings world request, table.routeId request.uri.path, phase⟩
    let rules := table.requestRules request.uri.path
    let rules' := table.responseRules request.uri.path
    let draft := fun i => Rule.draftAfter (rules.take i) (draftOf rules limit request)
    let asked := requestAccount (scope .request) rules (draftOf rules limit request)
    let replied := replyAccount (scope .response) (world.clock 3) rules' limit
    (ruleEvents (recorded world.verbosity run.events) = throughFirst Event.rejects asked ++
        run.forwards.flatMap fun forward => ((forwarder forward.dispatch).map replied).getD []) ∧
      (run.forwards = [] ↔ ∃ event ∈ asked, event.rejects = true) ∧
      asked.length = rules.length ∧
      (∀ i rule, rules[i]? = some rule → ∃ event, asked[i]? = some event ∧
        Tells (scope .request) rule (Rule.heldText (draft i)) (Rule.heldText (draft (i + 1))) event) ∧
      ∀ response : Response, response.body.size ≤ limit → (Text.ofBytes? response.body).isSome →
        let body := fun i => Rule.bodyAfter (world.clock 3) 0 (rules'.take i) (.ofBytes response.body)
        (replied response).length = rules'.length ∧
          ∀ i rule, rules'[i]? = some rule → ∃ event, (replied response)[i]? = some event ∧
            Tells (scope .response) rule (body i).text? (body (i + 1)).text? event := by
  intro run limit scope rules rules' draft asked replied
  refine ⟨?_, ?_, List.length_mapIdx, fun i rule placed => tells_requestAccount rfl placed _,
    fun response small readable => ?_⟩
  · rw [ruleEvents_recorded verbose]
    exact ruleEvents_handle table settings world forwarder request
  · simp only [run, forwards_eq_nil_iff, onward, sent_eq_sentBy, sentBy_eq_error]
    exact rejected_iff.symm
  · have account : replied response =
        responseAccount (scope .response) (world.clock 3) 0 rules' (.ofBytes response.body) :=
      if_pos ⟨small, readable⟩
    rw [account]
    exact ⟨List.length_mapIdx, fun i rule placed => tells_responseAccount rfl _ placed _⟩

/-- An exchange whose route has, for both ways, one rule that is not meant for it. -/
theorem both_ways_account :
    let route : Route := {
      id := "r"
      requestRules := [.injectMetadata (some "$") [], .renameJsonField (some "a") (some "b")]
      responseRules := [.modifyJsonValue (some "x") none (some "y"), .addHeader none none] }
    let world : World := { World.still with verbosity := some .debug }
    let response : Response := { status := 200, headers := .empty, body := "\x7b\"x\":1\x7d".toUTF8 }
    let run := (ofTable (.always route) {}).handle world (fun _ => some response)
      (.root .empty "\x7b\"a\":1\x7d".toUTF8)
    let site : String → String → RuleSite := fun rule phase => ⟨⟨0⟩, "r", rule, phase⟩
    ruleEvents (recorded world.verbosity run.events) =
      [.ruleUnknown (site "InjectMetadata" "request"), .ruleApplied (site "RenameJsonField" "request") true,
        .ruleApplied (site "ModifyJsonValue" "response") true, .ruleUnknown (site "AddHeader" "response")] := by
  intro route world response run site
  have passed : Rule.fatalError route.requestRules
      (draftOf route.requestRules 10485760 (.root .empty "\x7b\"a\":1\x7d".toUTF8)) = none := by decide +kernel
  have handed := forwards_always route {} world passed fun _ => some response
  have account := (rules_account_for_themselves (.always route) {} world (fun _ => some response)
    (.root .empty "\x7b\"a\":1\x7d".toUTF8) rfl).1
  rw [handed] at account
  refine account.trans ?_
  decide +kernel

end Gateway
end Relay
