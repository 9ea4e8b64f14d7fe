import Relay.Proofs.Route.Resolution

/-!
# The first match wins

A table is built just when every route has a pattern, and otherwise the first route without one is the error. Then
`first_match_wins`: a path resolves to the route at the least place whose pattern matches it. Hence a table joined
behind another one is asked only for what the other one does not resolve, and routes that do not match a path can be
left out or moved.
-/

namespace Relay.Route

/-- The path of the route is read as a pattern. -/
def HasPattern (compiles : Pattern → Bool) (route : Route) : Prop :=
  ∃ pattern, Pattern.parse compiles route.path = .ok pattern

/-- Whether the pattern of a route matches a path. -/
def isFor (path : String) (route : Route) : Bool := (Pattern.ofChars route.path.toList).matches path

/-- The route stands at the least place of the list at which a route is for the path. -/
def IsFirstFor (path : String) (routes : List Route) (route : Route) : Prop :=
  ∃ place : Nat, routes[place]? = some route ∧ isFor path route = true ∧
    ∀ earlier < place, ∀ other : Route, routes[earlier]? = some other → isFor path other = false

/-- The error is that of the first route of the list without a pattern, and it names this route. -/
def IsFirstFault (compiles : Pattern → Bool) (routes : List Route) (error : TableError) : Prop :=
  ∃ (place : Nat) (route : Route), routes[place]? = some route ∧ error.routeId = route.id ∧
    Pattern.parse compiles route.path = .error error.error ∧
    ∀ earlier < place, ∀ other : Route, routes[earlier]? = some other → HasPattern compiles other

variable {compiles : Pattern → Bool}

theorem hasPattern_or_fault (compiles : Pattern → Bool) (route : Route) :
    HasPattern compiles route ∨ ∃ fault, Pattern.parse compiles route.path = .error fault := by
  unfold HasPattern
  cases Pattern.parse compiles route.path with
  | ok pattern => exact .inl ⟨pattern, rfl⟩
  | error fault => exact .inr ⟨fault, rfl⟩

theorem HasPattern.not_fault {route : Route} (has : HasPattern compiles route) {fault : PatternError} :
    Pattern.parse compiles route.path ≠ .error fault := by
  obtain ⟨pattern, parsed⟩ := has
  rw [parsed]
  exact nofun

theorem not_hasPattern_iff {route : Route} :
    ¬ HasPattern compiles route ↔ ∃ fault, Pattern.parse compiles route.path = .error fault := by
  constructor
  · intro lacks
    exact (hasPattern_or_fault compiles route).resolve_left lacks
  · rintro ⟨fault, failed⟩ has
    exact has.not_fault failed

theorem isFirstFault_cons_of_fault {route : Route} {rest : List Route} {fault : PatternError}
    (failed : Pattern.parse compiles route.path = .error fault) {error : TableError} :
    IsFirstFault compiles (route :: rest) error ↔ error = ⟨route.id, fault⟩ := by
  constructor
  · rintro ⟨place, faulty, stands, named, wrong, before⟩
    cases place with
    | zero =>
      cases stands
      have same : fault = error.error := Except.error.inj (failed.symm.trans wrong)
      rw [same, ← named]
    | succ place => exact absurd failed (before 0 (Nat.succ_pos place) route rfl).not_fault
  · rintro rfl
    exact ⟨0, route, rfl, rfl, failed, fun earlier less => absurd less (Nat.not_lt_zero earlier)⟩

theorem isFirstFault_cons_of_hasPattern {route : Route} {rest : List Route} (has : HasPattern compiles route)
    {error : TableError} : IsFirstFault compiles (route :: rest) error ↔ IsFirstFault compiles rest error := by
  constructor
  · rintro ⟨place, faulty, stands, named, wrong, before⟩
    cases place with
    | zero =>
      cases stands
      exact absurd wrong has.not_fault
    | succ place =>
      refine ⟨place, faulty, stands, named, wrong, fun earlier less other there => ?_⟩
      exact before (earlier + 1) (Nat.succ_lt_succ less) other there
  · rintro ⟨place, faulty, stands, named, wrong, before⟩
    refine ⟨place + 1, faulty, stands, named, wrong, fun earlier less other there => ?_⟩
    cases earlier with
    | zero =>
      cases there
      exact has
    | succ earlier => exact before earlier (Nat.lt_of_succ_lt_succ less) other there

namespace Table

/-! ### Building -/

theorem ofRoutes_cons_of_fault {route : Route} {fault : PatternError}
    (failed : Pattern.parse compiles route.path = .error fault) (rest : List Route) :
    ofRoutes compiles (route :: rest) = .error ⟨route.id, fault⟩ := by
  have entry : Entry.ofRoute compiles route = .error ⟨route.id, fault⟩ := by
    rw [Entry.ofRoute, failed]
  rw [ofRoutes, List.mapM_cons, entry]
  rfl

theorem ofRoutes_cons_of_pattern {route : Route} {pattern : Pattern}
    (parsed : Pattern.parse compiles route.path = .ok pattern) (rest : List Route) :
    ofRoutes compiles (route :: rest) =
      (ofRoutes compiles rest).map fun table => ⟨⟨pattern, route⟩ :: table.entries⟩ := by
  have entry : Entry.ofRoute compiles route = .ok ⟨pattern, route⟩ := by
    rw [Entry.ofRoute, parsed]
  rw [ofRoutes, ofRoutes, List.mapM_cons, entry]
  cases rest.mapM (Entry.ofRoute compiles) <;> rfl

theorem ofRoutes_eq_error_iff {routes : List Route} {error : TableError} :
    ofRoutes compiles routes = .error error ↔ IsFirstFault compiles routes error := by
  induction routes with
  | nil =>
    constructor
    · intro failed
      cases failed
    · rintro ⟨place, route, stands, -⟩
      cases stands
  | cons route rest ih =>
    rcases hasPattern_or_fault compiles route with has | ⟨fault, failed⟩
    · have ⟨pattern, parsed⟩ := has
      rw [isFirstFault_cons_of_hasPattern has, ← ih, ofRoutes_cons_of_pattern parsed]
      cases ofRoutes compiles rest <;> simp [Except.map]
    · rw [isFirstFault_cons_of_fault failed, ofRoutes_cons_of_fault failed, Except.error.injEq, eq_comm]

theorem exists_ofRoutes_iff {routes : List Route} :
    (∃ table, ofRoutes compiles routes = .ok table) ↔ ∀ route ∈ routes, HasPattern compiles route := by
  induction routes with
  | nil => exact ⟨fun _ => nofun, fun _ => ⟨⟨[]⟩, rfl⟩⟩
  | cons route rest ih =>
    rw [List.forall_mem_cons, ← ih]
    rcases hasPattern_or_fault compiles route with has | ⟨fault, failed⟩
    · have ⟨pattern, parsed⟩ := has
      rw [ofRoutes_cons_of_pattern parsed]
      cases ofRoutes compiles rest <;> simp [Except.map, has]
    · have lacks : ¬ HasPattern compiles route := not_hasPattern_iff.mpr ⟨fault, failed⟩
      simp [ofRoutes_cons_of_fault failed, lacks]

theorem exists_error_iff {routes : List Route} :
    (∃ error, ofRoutes compiles routes = .error error) ↔ ∃ route ∈ routes, ¬ HasPattern compiles route := by
  have built : (∃ error, ofRoutes compiles routes = .error error) ↔
      ¬ ∃ table, ofRoutes compiles routes = .ok table := by
    cases ofRoutes compiles routes <;> simp
  rw [built, exists_ofRoutes_iff]
  simp [Classical.not_forall]

/-! ### Resolving -/

theorem entries_of_ofRoutes {routes : List Route} {table : Table} (built : ofRoutes compiles routes = .ok table) :
    table.entries = routes.map fun route => ⟨Pattern.ofChars route.path.toList, route⟩ := by
  induction routes generalizing table with
  | nil =>
    cases built
    rfl
  | cons route rest ih =>
    have all := exists_ofRoutes_iff.mp ⟨table, built⟩
    obtain ⟨pattern, parsed⟩ := all route List.mem_cons_self
    obtain ⟨table', built'⟩ := exists_ofRoutes_iff.mpr (List.forall_mem_cons.mp all).2
    rw [ofRoutes_cons_of_pattern parsed, built'] at built
    cases built
    rw [List.map_cons, ← ih built', (Pattern.parse_eq_ok.mp parsed).2]

theorem resolve_eq_find? {routes : List Route} {table : Table} (built : ofRoutes compiles routes = .ok table)
    (path : String) : table.resolve path = routes.find? (isFor path) := by
  rw [resolve, entries_of_ofRoutes built, List.find?_map, Option.map_map]
  exact Option.map_id'

/-- The first entry for a path is the one of the first route for it. -/
theorem isFirst_iff_isFirstFor {routes : List Route} {table : Table} (built : ofRoutes compiles routes = .ok table)
    {path : String} {route : Route} : table.IsFirst path route ↔ IsFirstFor path routes route := by
  simp only [IsFirst, IsFirstFor, entries_of_ofRoutes built, List.getElem?_map, Option.map_eq_some_iff]
  constructor
  · rintro ⟨place, _, ⟨stood, stands, rfl⟩, rfl, fits, before⟩
    exact ⟨place, stands, fits, fun earlier less other there => before earlier less _ ⟨other, there, rfl⟩⟩
  · rintro ⟨place, stands, fits, before⟩
    refine ⟨place, _, ⟨route, stands, rfl⟩, rfl, fits, ?_⟩
    rintro earlier less _ ⟨other, there, rfl⟩
    exact before earlier less other there

theorem resolve_eq_some_iff_isFirstFor {routes : List Route} {table : Table}
    (built : ofRoutes compiles routes = .ok table) {path : String} {route : Route} :
    table.resolve path = some route ↔ IsFirstFor path routes route :=
  resolve_eq_some_iff.trans (isFirst_iff_isFirstFor built)

theorem resolve_eq_none_iff_isFor {routes : List Route} {table : Table}
    (built : ofRoutes compiles routes = .ok table) {path : String} :
    table.resolve path = none ↔ ∀ route ∈ routes, isFor path route = false := by
  rw [resolve_eq_none_iff, entries_of_ofRoutes built, List.forall_mem_map]
  rfl

theorem resolve_append {routes others : List Route} {table table' joined : Table}
    (built : ofRoutes compiles routes = .ok table) (built' : ofRoutes compiles others = .ok table')
    (built'' : ofRoutes compiles (routes ++ others) = .ok joined) (path : String) :
    joined.resolve path = (table.resolve path).or (table'.resolve path) := by
  rw [resolve_eq_find? built, resolve_eq_find? built', resolve_eq_find? built'', List.find?_append]

theorem resolve_congr {routes others : List Route} {table table' : Table}
    (built : ofRoutes compiles routes = .ok table) (built' : ofRoutes compiles others = .ok table') {path : String}
    (same : others.filter (isFor path) = routes.filter (isFor path)) :
    table'.resolve path = table.resolve path := by
  have first : ∀ list : List Route, list.find? (isFor path) = (list.filter (isFor path)).head? :=
    fun list => List.head?_filter.symm
  rw [resolve_eq_find? built, resolve_eq_find? built', first, first, same]

/-! ### Directions -/

theorem flows_iff {table : Table} {direction : Direction} {path : String} :
    table.flows direction path = true ↔ ∃ route, table.resolve path = some route ∧ route.direction = direction := by
  rw [flows, beq_iff_eq, Option.map_eq_some_iff]

theorem flows_both_false_iff {table : Table} {path : String} :
    (table.flows .incoming path = false ∧ table.flows .outgoing path = false) ↔ table.resolve path = none := by
  rw [flows, flows]
  cases table.resolve path with
  | none => decide
  | some route => cases same : route.direction <;> simp [same]

theorem not_flows_both (table : Table) (path : String) :
    ¬ (table.flows .incoming path = true ∧ table.flows .outgoing path = true) := by
  rintro ⟨into, out⟩
  obtain ⟨route, found, incoming⟩ := flows_iff.mp into
  obtain ⟨route', found', outgoing⟩ := flows_iff.mp out
  cases found.symm.trans found'
  cases incoming.symm.trans outgoing

end Table

/-! ### The table of a list of routes -/

/-- A list of routes has no table just when one of them has no pattern, and then the first of these is named.
Otherwise a path resolves to the first route that is for it. Routes put behind resolve what is left over; a list with
the same routes for a path, in the same order, resolves it alike, whatever other routes of the list it has and
wherever they stand. A path flows in one direction, or in none where it does not resolve. -/
theorem first_match_wins (compiles : Pattern → Bool) (routes : List Route) :
    ((∃ error, Table.ofRoutes compiles routes = .error error) ↔ ∃ route ∈ routes, ¬ HasPattern compiles route) ∧
    (∀ error, Table.ofRoutes compiles routes = .error error ↔ IsFirstFault compiles routes error) ∧
    ∀ table, Table.ofRoutes compiles routes = .ok table → ∀ path,
      (∀ route, table.resolve path = some route ↔ IsFirstFor path routes route) ∧
      (table.resolve path = none ↔ ∀ route ∈ routes, isFor path route = false) ∧
      (∀ others table', Table.ofRoutes compiles others = .ok table' →
        ∃ joined, Table.ofRoutes compiles (routes ++ others) = .ok joined ∧
          joined.resolve path = (table.resolve path).or (table'.resolve path)) ∧
      (∀ others : List Route, (∀ route ∈ others, route ∈ routes) →
        others.filter (isFor path) = routes.filter (isFor path) →
        ∃ table', Table.ofRoutes compiles others = .ok table' ∧ table'.resolve path = table.resolve path) ∧
      ¬ (table.flows .incoming path = true ∧ table.flows .outgoing path = true) ∧
      ((table.flows .incoming path = false ∧ table.flows .outgoing path = false) ↔
        table.resolve path = none) := by
  refine ⟨Table.exists_error_iff, fun error => Table.ofRoutes_eq_error_iff, fun table built path => ?_⟩
  have all := Table.exists_ofRoutes_iff.mp ⟨table, built⟩
  refine ⟨fun route => Table.resolve_eq_some_iff_isFirstFor built, Table.resolve_eq_none_iff_isFor built, ?_, ?_,
    Table.not_flows_both table path, Table.flows_both_false_iff⟩
  · intro others table' built'
    have all' := Table.exists_ofRoutes_iff.mp ⟨table', built'⟩
    obtain ⟨joined, built''⟩ := Table.exists_ofRoutes_iff.mpr (List.forall_mem_append.mpr ⟨all, all'⟩)
    exact ⟨joined, built'', Table.resolve_append built built' built'' path⟩
  · intro others among same
    obtain ⟨table', built'⟩ := Table.exists_ofRoutes_iff.mpr fun route listed => all route (among route listed)
    exact ⟨table', built', Table.resolve_congr built built' same⟩

/-- The second and the third route are for the path, and so is the one put behind them; the first one is not, and may
stand elsewhere. -/
theorem earliest_of_three_is_taken :
    let compiles : Pattern → Bool := fun _ => true
    let apart : Route := { id := "apart", path := "/a/\x7bid\x7d" }
    let piece : Route := { id := "piece", path := "/\x7bid\x7d", direction := .outgoing }
    let all : Route := { id := "all", path := "/\x7b**rest\x7d" }
    let exact : Route := { id := "exact", path := "/b" }
    ∃ table joined, Table.ofRoutes compiles [apart, piece, all] = .ok table ∧ table.resolve "/B" = some piece ∧
      Table.ofRoutes compiles ([apart, piece, all] ++ [exact]) = .ok joined ∧ joined.resolve "/B" = some piece ∧
      (∃ moved, Table.ofRoutes compiles [piece, apart, all] = .ok moved ∧ moved.resolve "/B" = some piece) ∧
      ¬ (table.flows .incoming "/B" = true ∧ table.flows .outgoing "/B" = true) := by
  intro compiles apart piece all exact
  let table : Table := ⟨[⟨⟨.template, [.letter '/', .letter 'a', .letter '/', .piece]⟩, apart⟩,
    ⟨⟨.template, [.letter '/', .piece]⟩, piece⟩, ⟨⟨.catchAll, [.letter '/']⟩, all⟩]⟩
  let last : Table := ⟨[⟨⟨.exact, [.letter '/', .letter 'b']⟩, exact⟩]⟩
  have built : Table.ofRoutes compiles [apart, piece, all] = .ok table := by cbv
  have built' : Table.ofRoutes compiles [exact] = .ok last := by cbv
  obtain ⟨-, -, found⟩ := first_match_wins compiles [apart, piece, all]
  obtain ⟨resolves, -, behind, rearranged, oneWay, -⟩ := found table built "/B"
  have isApart : isFor "/B" apart = false := by decide +kernel
  have isPiece : isFor "/B" piece = true := by decide +kernel
  have first : table.resolve "/B" = some piece := by
    refine (resolves piece).mpr ⟨1, rfl, isPiece, fun earlier less other there => ?_⟩
    obtain rfl : earlier = 0 := by omega
    cases there
    exact isApart
  obtain ⟨joined, built'', same⟩ := behind [exact] last built'
  obtain ⟨moved, rebuilt, same'⟩ := rearranged [piece, apart, all] (by simp +contextual) <| by
    simp only [List.filter_cons, isApart, isPiece, Bool.false_eq_true, if_true, if_false]
  exact ⟨table, joined, built, first, built'', by rw [same, first]; rfl, ⟨moved, rebuilt, same'.trans first⟩, oneWay⟩

end Relay.Route
