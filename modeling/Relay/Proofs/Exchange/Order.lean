import Mathlib.Tactic.Choose
import Relay.Proofs.Exchange.Course

/-!
# The order of stages

A request meets the stages of a pipeline from the first on, up to one that answers it or up to the handler,
and what comes back passes them in reverse. `chain_eq_through` says so of any stages that hand a request on at
most once, and those of a gateway are such stages: `stages_run_in_order`.
-/

namespace Relay
open Http

namespace Run

variable {α β γ : Type}

theorem bind_assoc (run : Run α) (f : α → Run β) (g : β → Run γ) :
    run >>= f >>= g = run >>= fun x => f x >>= g := by
  obtain ⟨notes, _ | x⟩ := run
  · rfl
  · rw [bind_some, bind_some]
    obtain ⟨more, _ | y⟩ := f x
    · rfl
    · rw [bind_some, bind_some, List.append_assoc]

theorem id_map (run : Run α) : id <$> run = run := by
  obtain ⟨notes, _ | x⟩ := run
  · rfl
  · show (⟨notes ++ [], some x⟩ : Run α) = _
    rw [List.append_nil]

instance : LawfulMonad Run := .mk' _ id_map (fun _ _ => rfl) bind_assoc

theorem note_append (notes more : List Note) : note (notes ++ more) = (do note notes; note more) := rfl

end Run

/-! ### Stages that hand on at most once -/

/-- What a stage does with a request: it hands one on and works on what comes back, or it answers itself. -/
inductive Conduct where
  | passes (entry : List Note) (handed : Context × Request)
      (exit : Context × Response → Run (Context × Response))
  | stops (answer : Run (Context × Response))

namespace Conduct

def run (conduct : Conduct) (next : Handler) : Run (Context × Response) :=
  match conduct with
  | passes entry handed exit => do
    Run.note entry
    exit (← next handed.1 handed.2)
  | stops answer => answer

def entry : Conduct → List Note
  | passes entry _ _ => entry
  | stops _ => []

def handed? : Conduct → Option (Context × Request)
  | passes _ handed _ => some handed
  | stops _ => none

def exit : Conduct → Context × Response → Run (Context × Response)
  | passes _ _ exit => exit
  | stops _ => pure

end Conduct

/-- A stage that decides of each request whether to hand it on, once, or to answer it. -/
structure Station where
  name : String
  conduct : Surroundings → Context → Request → Conduct

def Station.stage (station : Station) : Stage where
  name := station.name
  process around next context request := (station.conduct around context request).run next

/-- A request at a station. -/
structure Visit where
  station : Station
  around : Surroundings
  context : Context
  request : Request

namespace Visit

def conduct (visit : Visit) : Conduct := visit.station.conduct visit.around visit.context visit.request

/-- The station answers the request itself. -/
def Stops (visit : Visit) : Prop := visit.conduct.handed? = none

end Visit

namespace Pipeline

/-- The stations that a request enters, the first of which is at a place, with what each is handed. -/
def visits (world : World) : Nat → List Station → Context × Request → List Visit
  | _, [], _ => []
  | place, station :: rest, given =>
    let visit : Visit := ⟨station, world.at place, given.1, given.2⟩
    visit :: match visit.conduct.handed? with
      | some handed => visits world (place + 1) rest handed
      | none => []

/-- A run behind some visits. They are made in order, and what comes back passes them in reverse. -/
def through (visits : List Visit) (inner : Run (Context × Response)) : Run (Context × Response) := do
  Run.note (visits.flatMap (·.conduct.entry))
  visits.reverse.foldlM (fun back visit => visit.conduct.exit back) (← inner)

theorem through_nil (inner : Run (Context × Response)) : through [] inner = inner := by
  simp only [through, List.flatMap_nil, List.reverse_nil, List.foldlM_nil, bind_pure]
  rfl

theorem through_cons (visit : Visit) (rest : List Visit) (inner : Run (Context × Response)) :
    through (visit :: rest) inner = (do
      Run.note visit.conduct.entry
      visit.conduct.exit (← through rest inner)) := by
  simp only [through, List.flatMap_cons, Run.note_append, List.reverse_cons, List.foldlM_append,
    List.foldlM_cons, List.foldlM_nil, bind_pure, bind_assoc]

/-! ### The way through a chain -/

theorem visits_cons_of_passes {world : World} {place : Nat} {station : Station} {given handed : Context × Request}
    (passes : (station.conduct (world.at place) given.1 given.2).handed? = some handed)
    (rest : List Station) :
    visits world place (station :: rest) given =
      ⟨station, world.at place, given.1, given.2⟩ :: visits world (place + 1) rest handed := by
  simp only [visits, Visit.conduct, passes]

theorem visits_cons_of_stops {world : World} {place : Nat} {station : Station} {given : Context × Request}
    (stops : (station.conduct (world.at place) given.1 given.2).handed? = none) (rest : List Station) :
    visits world place (station :: rest) given = [⟨station, world.at place, given.1, given.2⟩] := by
  simp only [visits, Visit.conduct, stops]

theorem stations_visits (world : World) (place : Nat) (stations : List Station) (given : Context × Request) :
    (visits world place stations given).map (·.station) <+: stations := by
  induction stations generalizing place given with
  | nil => exact List.nil_prefix
  | cons station rest ih =>
    cases step : (station.conduct (world.at place) given.1 given.2).handed? with
    | some handed =>
      rw [visits_cons_of_passes step]
      exact List.cons_prefix_cons.mpr ⟨rfl, ih (place + 1) handed⟩
    | none =>
      rw [visits_cons_of_stops step]
      exact List.cons_prefix_cons.mpr ⟨rfl, List.nil_prefix⟩

/-- The run of a chain is that of the handler behind visits to all stations, none of which stops, or the
answer of the first station that stops, behind visits to the ones before it. -/
theorem chain_eq_through (world : World) (place : Nat) (stations : List Station) (given : Context × Request) :
    let entered := visits world place stations given
    let run (handler : Handler) := chain world handler place (stations.map (·.stage)) given.1 given.2
    ((∀ visit ∈ entered, ¬ visit.Stops) ∧ entered.map (·.station) = stations ∧
        ∃ handed : Context × Request, ∀ handler, run handler = through entered (handler handed.1 handed.2)) ∨
      ∃ earlier stop answer, entered = earlier ++ [stop] ∧ (∀ visit ∈ earlier, ¬ visit.Stops) ∧
        stop.conduct = .stops answer ∧ ∀ handler, run handler = through earlier answer := by
  induction stations generalizing place given with
  | nil => exact .inl ⟨List.forall_mem_nil _, rfl, given, fun handler => (through_nil _).symm⟩
  | cons station rest ih =>
    intro entered run
    have ran : ∀ handler, run handler = (station.conduct (world.at place) given.1 given.2).run
        (chain world handler (place + 1) (rest.map (·.stage))) := fun _ => rfl
    cases conduct : station.conduct (world.at place) given.1 given.2 with
    | stops answer =>
      have alone := visits_cons_of_stops (congrArg Conduct.handed? conduct) rest
      refine .inr ⟨[], _, answer, alone, List.forall_mem_nil _, conduct, fun handler => ?_⟩
      rw [ran, conduct, through_nil]
      rfl
    | passes entry handed exit =>
      have more := visits_cons_of_passes (congrArg Conduct.handed? conduct) rest
      have passed : ¬ Visit.Stops ⟨station, world.at place, given.1, given.2⟩ := by
        rw [Visit.Stops, Visit.conduct, conduct]
        nofun
      have behind : ∀ (later : List Visit) (inner : Run (Context × Response)) (handler : Handler),
          chain world handler (place + 1) (rest.map (·.stage)) handed.1 handed.2 = through later inner →
            run handler = through (⟨station, world.at place, given.1, given.2⟩ :: later) inner := by
        intro later inner handler same
        rw [ran, through_cons, Visit.conduct, conduct, ← same]
        rfl
      rcases ih (place + 1) handed with
        ⟨none, all, last, same⟩ | ⟨earlier, stop, answer, parts, before, stopped, same⟩
      · refine .inl ⟨?_, ?_, last, fun handler => ?_⟩
        · show ∀ visit ∈ visits world place (station :: rest) given, _
          rw [more]
          exact List.forall_mem_cons.mpr ⟨passed, none⟩
        · show (visits world place (station :: rest) given).map (·.station) = _
          rw [more, List.map_cons, all]
        · show _ = through (visits world place (station :: rest) given) _
          rw [more]
          exact behind _ _ _ (same handler)
      · refine .inr ⟨⟨station, world.at place, given.1, given.2⟩ :: earlier, stop, answer, ?_, ?_, stopped,
          fun handler => behind _ _ _ (same handler)⟩
        · rw [List.cons_append, ← parts]
          exact more
        · exact List.forall_mem_cons.mpr ⟨passed, before⟩

/-! ### Building -/

/-- A call that adds a stage to a pipeline under construction. -/
inductive Addition where
  | before (station : Station)
  | around (station : Station)

def Addition.before? : Addition → Option Station
  | before station => some station
  | around _ => none

def Addition.around? : Addition → Option Station
  | before _ => none
  | around station => some station

def add (pipeline : Pipeline) : Addition → Pipeline
  | .before station => pipeline.addBefore station.stage
  | .around station => pipeline.addAround station.stage

def built (additions : List Addition) : Pipeline := additions.foldl add empty

/-- The stations that were added before the handler, and then those around it, each in their order. -/
def ordered (additions : List Addition) : List Station :=
  additions.filterMap Addition.before? ++ additions.filterMap Addition.around?

theorem foldl_add (additions : List Addition) (pipeline : Pipeline) :
    additions.foldl add pipeline =
      ⟨pipeline.before ++ (additions.filterMap Addition.before?).map (·.stage),
        pipeline.around ++ (additions.filterMap Addition.around?).map (·.stage)⟩ := by
  induction additions generalizing pipeline with
  | nil => simp
  | cons addition rest ih =>
    rw [List.foldl_cons, ih]
    cases addition <;>
      simp [add, addBefore, addAround, Addition.before?, Addition.around?, List.filterMap_cons]

theorem stages_built (additions : List Addition) :
    (built additions).stages = (ordered additions).map (·.stage) := by
  rw [built, foldl_add, ordered, List.map_append]
  rfl

end Pipeline

/-! ### The stages of a gateway -/

/-- A run that goes on at most once to what comes next. -/
def Once (run : Handler → Run (Context × Response)) : Prop :=
  ∃ conduct : Conduct, ∀ next, run next = conduct.run next

namespace Once

theorem answer (answer : Run (Context × Response)) : Once fun _ => answer := ⟨.stops answer, fun _ => rfl⟩

theorem next (context : Context) (request : Request) (exit : Context × Response → Run (Context × Response)) :
    Once fun next => next context request >>= exit :=
  ⟨.passes [] (context, request) exit, fun _ => rfl⟩

theorem last (context : Context) (request : Request) : Once fun next => next context request := by
  obtain ⟨conduct, same⟩ := next context request pure
  exact ⟨conduct, fun next => (bind_pure _).symm.trans (same next)⟩

theorem behind {α : Type} (run : Run α) {rest : α → Handler → Run (Context × Response)}
    (once : ∀ x, Once (rest x)) : Once fun next => run >>= fun x => rest x next := by
  obtain ⟨notes, _ | x⟩ := run
  · exact answer ⟨notes, none⟩
  · obtain ⟨conduct, same⟩ := once x
    cases conduct with
    | passes entry handed exit =>
      refine ⟨.passes (notes ++ entry) handed exit, fun next => ?_⟩
      show (do Run.note notes; rest x next) = _
      rw [same, Conduct.run, Conduct.run, Run.note_append, bind_assoc]
    | stops given =>
      refine ⟨.stops ⟨notes ++ given.notes, given.result⟩, fun next => ?_⟩
      show (do Run.note notes; rest x next) = _
      rw [same]
      rfl

end Once

/-- A stage that hands every request on at most once. -/
def Stage.HandsOnOnce (stage : Stage) : Prop :=
  ∀ around context request, Once fun next => stage.process around next context request

theorem Stage.HandsOnOnce.exists_station {stage : Stage} (once : stage.HandsOnOnce) :
    ∃ station : Station, station.stage = stage := by
  choose conduct same using once
  refine ⟨⟨stage.name, conduct⟩, ?_⟩
  have process : (Station.mk stage.name conduct).stage.process = stage.process := by
    funext around next context request
    exact (same around context request next).symm
  exact congrArg (Stage.mk stage.name) process

namespace Exchange

theorem handsOnOnce_identityStage (trust : Bool) : (identityStage trust).HandsOnOnce :=
  fun _ _ _ => .next _ _ _

theorem handsOnOnce_loggingStage (bodies : Bool) : (loggingStage bodies).HandsOnOnce := by
  intro around context request
  cases shown : showsBodies bodies around.verbosity with
  | false =>
    simp only [loggingStage, shown]
    exact .behind _ fun _ => .next _ _ _
  | true =>
    simp only [loggingStage, shown]
    exact .behind _ fun _ => .behind _ fun _ => .next _ _ _

theorem handsOnOnce_requestStage (table : Route.Table) (limit : Nat) :
    (requestStage table limit).HandsOnOnce := by
  intro around context request
  cases found : table.resolve request.uri.path with
  | none =>
    simp only [requestStage, found]
    exact .behind _ fun _ => .last _ _
  | some route =>
    simp only [requestStage, found]
    refine .behind _ fun _ => .behind _ fun _ => ?_
    split
    case' h_1 => refine .behind _ fun _ => ?_
    all_goals
      refine .behind _ fun ended => ?_
      cases ended with
      | ok draft => exact .last _ _
      | error error => exact .answer _

theorem handsOnOnce_responseStage (table : Route.Table) (limit : Nat) :
    (responseStage table limit).HandsOnOnce :=
  fun _ _ _ => .next _ _ _

end Exchange

/-- The pipeline of a gateway is one of stages that hand a request on at most once. -/
theorem Gateway.exists_additions (table : Route.Table) (settings : GatewaySettings) :
    ∃ additions, Gateway.stages table settings = Pipeline.built additions ∧
      (Pipeline.ordered additions).map (·.stage) =
        [Exchange.identityStage settings.trustIncomingIds, Exchange.loggingStage settings.logBodies,
          Exchange.requestStage table settings.maxBodyBytes,
          Exchange.responseStage table settings.maxBodyBytes] := by
  obtain ⟨identity, sameIdentity⟩ :=
    (Exchange.handsOnOnce_identityStage settings.trustIncomingIds).exists_station
  obtain ⟨logging, sameLogging⟩ := (Exchange.handsOnOnce_loggingStage settings.logBodies).exists_station
  obtain ⟨request, sameRequest⟩ :=
    (Exchange.handsOnOnce_requestStage table settings.maxBodyBytes).exists_station
  obtain ⟨response, sameResponse⟩ :=
    (Exchange.handsOnOnce_responseStage table settings.maxBodyBytes).exists_station
  refine ⟨[.before identity, .before logging, .before request, .around response], ?_, ?_⟩
  · rw [Gateway.stages, ← sameIdentity, ← sameLogging, ← sameRequest, ← sameResponse]
    rfl
  · rw [← sameIdentity, ← sameLogging, ← sameRequest, ← sameResponse]
    rfl

namespace Pipeline

/-- Whatever was added in which order, the stages stand in the order of `ordered`. A request enters them from
the first on, and each but the last one that it enters hands it on. If none of them stops, all are entered and
the handler runs once; if one stops, no stage behind it and no handler runs. Either way what comes back passes
the entered stages in reverse. The pipeline of every gateway is one of these, with its four stages in order. -/
theorem stages_run_in_order (additions : List Addition) (world : World) (context : Context)
    (request : Request) :
    let pipeline := built additions
    let stations := ordered additions
    let entered := visits world 0 stations (context, request)
    let run (handler : Handler) := pipeline.process world handler context request
    pipeline.stageNames = stations.map (·.name) ∧
      entered.map (·.station) <+: stations ∧
      (((∀ visit ∈ entered, ¬ visit.Stops) ∧ entered.map (·.station) = stations ∧
          ∃ handed : Context × Request, ∀ handler, run handler = through entered (handler handed.1 handed.2)) ∨
        ∃ earlier stop answer, entered = earlier ++ [stop] ∧ (∀ visit ∈ earlier, ¬ visit.Stops) ∧
          stop.conduct = .stops answer ∧ ∀ handler, run handler = through earlier answer) ∧
      ∀ table settings, ∃ additions, Gateway.stages table settings = built additions ∧
        (ordered additions).map (·.stage) =
          [Exchange.identityStage settings.trustIncomingIds, Exchange.loggingStage settings.logBodies,
            Exchange.requestStage table settings.maxBodyBytes,
            Exchange.responseStage table settings.maxBodyBytes] := by
  intro pipeline stations entered run
  have stages : pipeline.stages = stations.map (·.stage) := stages_built additions
  have names : pipeline.stageNames = stations.map (·.name) := by
    rw [stageNames, stages, List.map_map]
    rfl
  have same : run = fun handler => chain world handler 0 (stations.map (·.stage)) context request := by
    funext handler
    show chain world handler 0 pipeline.stages context request = _
    rw [stages]
  refine ⟨names, stations_visits .., ?_, Gateway.exists_additions⟩
  rw [same]
  exact chain_eq_through world 0 stations (context, request)

/-- A stage that notes its passages. -/
def marker (name : String) : Station where
  name := name
  conduct _ context request :=
    .passes [.passage name context (.entered request.uri)] (context, request) fun (context, response) => do
      Run.note [.passage name context (.left response.status)]
      return (context, response)

/-- A stage that answers every request itself. -/
def refuser (name : String) (status : Nat) : Station where
  name := name
  conduct _ context _ :=
    .stops ⟨[.passage name context (.stopped status)],
      some (context, { status := status, headers := .empty, body := .empty })⟩

theorem refused_in_the_middle :
    let context : Context := { correlationId := ⟨0⟩ }
    let request : Request := .root .empty .empty
    let pipeline := built [.around (marker "last"), .before (marker "first"), .before (refuser "second" 503),
      .before (marker "third")]
    pipeline.stageNames = ["first", "second", "third", "last"] ∧
      ∀ handler, ∃ response, response.status = 503 ∧
        pipeline.process .still handler context request =
          ⟨[.passage "first" context (.entered request.uri), .passage "second" context (.stopped 503),
            .passage "first" context (.left 503)], some (context, response)⟩ := by
  intro context request pipeline
  obtain ⟨names, -, course, -⟩ := stages_run_in_order [.around (marker "last"), .before (marker "first"),
    .before (refuser "second" 503), .before (marker "third")] .still context request
  refine ⟨names, fun handler => ⟨{ status := 503, headers := .empty, body := .empty }, rfl, ?_⟩⟩
  rcases course with ⟨none, -⟩ | ⟨earlier, stop, answer, parts, -, stopped, same⟩
  · exact absurd rfl (none ⟨refuser "second" 503, World.still.at 1, context, request⟩
      (List.mem_cons_of_mem _ List.mem_cons_self))
  · have two : [⟨marker "first", World.still.at 0, context, request⟩] ++
        [⟨refuser "second" 503, World.still.at 1, context, request⟩] = earlier ++ [stop] := parts
    obtain ⟨rfl, last⟩ := List.append_inj' two rfl
    obtain rfl := List.singleton_inj.mp last
    obtain rfl := Conduct.stops.inj stopped
    exact same handler

end Pipeline
end Relay
