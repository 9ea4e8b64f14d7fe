import Relay.Json.Path.Reader
import Relay.Proofs.Json.DocumentOrder
import Relay.Proofs.Json.NamingOrder

/-!
# Passages to what a path names

A path comes to a location along passages, with one leg for each segment: some way down, and a step that one of the
selectors picks. Passages are in the order of words over their legs, and that is the order in which a path meets what
it names. `locate` lists each location at its first passage, which is the order of the document only where no location
is passed first after a later one: `locate_lists_by_first_passage`.
-/

namespace Relay.Json

/-! ### Legs -/

/-- How a segment goes on from a node: some way down, then the step that the selector of the rank picks. -/
structure Leg where
  way : Location
  rank : Nat
  step : Step

namespace Leg

def path (leg : Leg) : Location := leg.way ++ [leg.step]

def key (leg : Leg) : Location ×ₗ ℕ ×ₗ Step := toLex (leg.way, toLex (leg.rank, leg.step))

theorem key_injective : Function.Injective key := by
  intro a b same
  cases a
  cases b
  simpa [key] using same

instance : LinearOrder Leg := LinearOrder.lift' key key_injective

theorem lt_iff {a b : Leg} :
    a < b ↔ a.way < b.way ∨ a.way = b.way ∧ (a.rank < b.rank ∨ a.rank = b.rank ∧ a.step < b.step) := by
  refine Prod.Lex.lt_iff.trans (or_congr_right (and_congr_right fun _ => ?_))
  exact Prod.Lex.lt_iff

end Leg

/-- The segment has the leg from a node. -/
def Segment.Takes (segment : Segment) (node : Json) (leg : Leg) : Prop :=
  (segment.recursive = false → leg.way = []) ∧ ∃ below selector, node.get? leg.way = some below ∧
    segment.selectors[leg.rank]? = some selector ∧ selector.Picks below leg.step

/-- The legs of one selector after another from a place below a node, with the nodes that they lead to. -/
def legsAt (selectors : List Selector) (start : Location × Json) : List (Leg × Json) :=
  selectors.zipIdx.flatMap fun ranked =>
    (ranked.1.choose start.2).map fun next => (⟨start.1, ranked.2, next.1⟩, next.2)

/-- The nodes below which the selectors of a segment pick a child, with the ways there. -/
def Segment.starts (segment : Segment) (node : Json) : List (Location × Json) :=
  if segment.recursive then descendants [] node else [([], node)]

/-- All legs of a segment from a node, in order. -/
def Segment.legs (segment : Segment) (node : Json) : List (Leg × Json) :=
  (segment.starts node).flatMap (legsAt segment.selectors)

/-- What is listed below a node when its location is `origin`. -/
def under (origin : Location) (below : Location × Json) : Location × Json := (origin ++ below.1, below.2)

theorem descendants_append (front origin : Location) (v : Json) :
    descendants (front ++ origin) v = (descendants origin v).map (under front) := by
  rw [descendants_eq, descendants_eq origin, List.map_cons, List.map_flatMap, nodesBelow, nodesBelow,
    List.flatMap_map, List.flatMap_map]
  refine congrArg ((front ++ origin, v) :: ·) (List.flatMap_congr fun child present => ?_)
  have below : (origin ++ [child.1], child.2) ∈ nodesBelow (origin, v) := List.mem_map_of_mem present
  have smaller : child.2.size < v.size := size_lt_of_mem_nodesBelow below
  rw [List.append_assoc]
  exact descendants_append front (origin ++ [child.1]) child.2
termination_by v.size

theorem selectAll_under (selectors : List Selector) (origin : Location) (start : Location × Json) :
    selectAll selectors (under origin start) =
      (legsAt selectors start).map fun next => (origin ++ next.1.path, next.2) := by
  have ranks : selectors = selectors.zipIdx.map (·.1) := List.zipIdx_map_fst 0 selectors |>.symm
  rw [selectAll, legsAt, List.map_flatMap]
  conv_lhs => rw [ranks]
  rw [List.flatMap_map]
  refine List.flatMap_congr fun ranked _ => ?_
  simp only [List.map_map, Function.comp_def, under, Leg.path, List.append_assoc]

/-- Following a segment is going all its legs. -/
theorem follow_eq_legs (segment : Segment) (here : Location × Json) :
    segment.follow here = (segment.legs here.2).map fun next => (here.1 ++ next.1.path, next.2) := by
  have starts : (if segment.recursive then descendants here.1 here.2 else [here]) =
      (segment.starts here.2).map (under here.1) := by
    rw [Segment.starts]
    split
    · exact (congrArg (descendants · here.2) (List.append_nil here.1).symm).trans
        (descendants_append here.1 [] here.2)
    · simp [under]
  rw [Segment.follow, Segment.legs]
  simp only [starts, List.flatMap_map, List.map_flatMap, selectAll_under]

theorem mem_legsAt {selectors : List Selector} {start : Location × Json} (formed : start.2.WellFormed)
    {leg : Leg} {w : Json} :
    (leg, w) ∈ legsAt selectors start ↔ leg.way = start.1 ∧ start.2.child? leg.step = some w ∧
      ∃ selector, selectors[leg.rank]? = some selector ∧ selector.Picks start.2 leg.step := by
  rw [legsAt, List.mem_flatMap]
  constructor
  · rintro ⟨⟨selector, rank⟩, listed, chosen⟩
    obtain ⟨⟨step, child⟩, picked, same⟩ := List.mem_map.mp chosen
    obtain ⟨rfl, rfl⟩ := Prod.mk.inj same
    obtain ⟨picks, found⟩ := (mem_choose formed).mp picked
    exact ⟨rfl, found, selector, List.mem_zipIdx_iff_getElem?.mp listed, picks⟩
  · rintro ⟨same, found, selector, listed, picks⟩
    refine ⟨(selector, leg.rank), List.mem_zipIdx_iff_getElem?.mpr listed, List.mem_map.mpr ⟨(leg.step, w), ?_, ?_⟩⟩
    · exact (mem_choose formed).mpr ⟨picks, found⟩
    · rw [← same]

theorem mem_starts {segment : Segment} {node : Json} (formed : node.WellFormed) {start : Location × Json} :
    start ∈ segment.starts node ↔
      (segment.recursive = false → start.1 = []) ∧ node.get? start.1 = some start.2 := by
  rw [Segment.starts]
  split
  · rename_i recursive
    rw [mem_descendants formed]
    simp [recursive]
  · rename_i plain
    rw [List.mem_singleton, Prod.ext_iff]
    simp only [Bool.eq_false_of_not_eq_true plain, forall_const]
    refine and_congr_right fun root => ?_
    rw [root, get?, Option.some.injEq]
    exact eq_comm

theorem mem_legs {segment : Segment} {node : Json} (formed : node.WellFormed) {leg : Leg} {w : Json} :
    (leg, w) ∈ segment.legs node ↔ segment.Takes node leg ∧ node.get? leg.path = some w := by
  rw [Segment.legs, List.mem_flatMap]
  constructor
  · rintro ⟨start, present, taken⟩
    obtain ⟨plain, found⟩ := (mem_starts formed).mp present
    obtain ⟨same, child, selector, listed, picks⟩ := (mem_legsAt (formed.get? found)).mp taken
    rw [← same] at plain found
    refine ⟨⟨plain, start.2, selector, found, listed, picks⟩, ?_⟩
    rw [Leg.path, get?_concat found, child]
  · rintro ⟨⟨plain, below, selector, found, listed, picks⟩, there⟩
    rw [Leg.path, get?_concat found] at there
    exact ⟨(leg.way, below), (mem_starts formed).mpr ⟨plain, found⟩,
      (mem_legsAt (formed.get? found)).mpr ⟨rfl, there, selector, listed, picks⟩⟩

theorem pairwise_legsAt (selectors : List Selector) {start : Location × Json} (formed : start.2.WellFormed) :
    (legsAt selectors start).Pairwise fun next later => next.1 < later.1 := by
  have chosen : ∀ selector : Selector, (selector.choose start.2).Pairwise fun next later => next.1 < later.1 := by
    intro selector
    cases selector with
    | wildcard => exact pairwise_children formed
    | name key =>
      rw [choose_name]
      cases start.2.child? (.key key) <;> simp
    | index k =>
      cases start.2 with
      | arr items =>
        rw [choose_index]
        cases (position k items.length).bind fun i => items[i]?.map fun child => (Step.index i, child) <;> simp
      | _ => exact List.Pairwise.nil
  have ranks : selectors.zipIdx.Pairwise fun ranked later => ranked.2 < later.2 := by
    refine List.pairwise_map.mp ?_
    rw [List.zipIdx_map_snd]
    exact List.pairwise_lt_range'
  refine List.pairwise_flatMap.mpr ⟨fun ranked _ => List.pairwise_map.mpr ((chosen ranked.1).imp ?_), ranks.imp ?_⟩
  · intro next later before
    exact Leg.lt_iff.mpr (.inr ⟨rfl, .inr ⟨rfl, before⟩⟩)
  · intro ranked later before x picked y picked'
    obtain ⟨next, -, rfl⟩ := List.mem_map.mp picked
    obtain ⟨next', -, rfl⟩ := List.mem_map.mp picked'
    exact Leg.lt_iff.mpr (.inr ⟨rfl, .inl before⟩)

theorem pairwise_starts (segment : Segment) {node : Json} (formed : node.WellFormed) :
    (segment.starts node).Pairwise fun start later => start.1 < later.1 := by
  rw [Segment.starts]
  split
  · exact pairwise_descendants [] formed
  · exact List.pairwise_singleton _ _

theorem pairwise_legs (segment : Segment) {node : Json} (formed : node.WellFormed) :
    (segment.legs node).Pairwise fun next later => next.1 < later.1 := by
  have each : ∀ start ∈ segment.starts node, start.2.WellFormed := fun start present =>
    formed.get? ((mem_starts formed).mp present).2
  refine List.pairwise_flatMap.mpr ⟨fun start present => pairwise_legsAt _ (each start present), ?_⟩
  refine (pairwise_starts segment formed).imp_of_mem fun {start later} first second before => ?_
  rintro ⟨leg, w⟩ taken ⟨leg', w'⟩ taken'
  obtain ⟨same, -⟩ := (mem_legsAt (each start first)).mp taken
  obtain ⟨same', -⟩ := (mem_legsAt (each later second)).mp taken'
  refine Leg.lt_iff.mpr (.inl ?_)
  rw [same, same']
  exact before

/-! ### Passages -/

/-- One leg of each segment, each from where the one before it ended. -/
inductive Passes : List Segment → Json → List Leg → Prop
  | nil {node : Json} : Passes [] node []
  | cons {segment : Segment} {rest : List Segment} {node child : Json} {leg : Leg} {legs : List Leg}
    (takes : segment.Takes node leg) (found : node.get? leg.path = some child) (passes : Passes rest child legs) :
    Passes (segment :: rest) node (leg :: legs)

/-- Where a passage ends. -/
def goal (legs : List Leg) : Location := legs.flatMap Leg.path

theorem goal_cons (leg : Leg) (legs : List Leg) : goal (leg :: legs) = leg.path ++ goal legs :=
  List.flatMap_cons

/-- All passages from a node, in order. -/
def passages : List Segment → Json → List (List Leg)
  | [], _ => [[]]
  | segment :: rest, node =>
    (segment.legs node).flatMap fun next => (passages rest next.2).map (next.1 :: ·)

theorem mem_passages {segments : List Segment} {node : Json} (formed : node.WellFormed) {legs : List Leg} :
    legs ∈ passages segments node ↔ Passes segments node legs := by
  induction segments generalizing node legs with
  | nil =>
    rw [passages, List.mem_singleton]
    constructor
    · rintro rfl
      exact .nil
    · intro passes
      cases passes
      rfl
  | cons segment rest ih =>
    rw [passages, List.mem_flatMap]
    constructor
    · rintro ⟨next, taken, onward⟩
      obtain ⟨legs, listed, rfl⟩ := List.mem_map.mp onward
      obtain ⟨takes, found⟩ := (mem_legs formed).mp taken
      exact .cons takes found ((ih (formed.get? found)).mp listed)
    · intro passes
      cases passes with
      | @cons _ _ _ child leg legs takes found passes =>
        refine ⟨(leg, child), (mem_legs formed).mpr ⟨takes, found⟩, List.mem_map.mpr ⟨legs, ?_, rfl⟩⟩
        exact (ih (formed.get? found)).mpr passes

theorem pairwise_passages (segments : List Segment) {node : Json} (formed : node.WellFormed) :
    (passages segments node).Pairwise (· < ·) := by
  induction segments generalizing node with
  | nil => exact List.pairwise_singleton _ _
  | cons segment rest ih =>
    refine List.pairwise_flatMap.mpr ⟨fun next taken => List.pairwise_map.mpr ?_, ?_⟩
    · obtain ⟨-, found⟩ := (mem_legs formed).mp taken
      exact (ih (formed.get? found)).imp List.Lex.cons
    · refine (pairwise_legs segment formed).imp fun before x onward y onward' => ?_
      obtain ⟨legs, -, rfl⟩ := List.mem_map.mp onward
      obtain ⟨legs', -, rfl⟩ := List.mem_map.mp onward'
      exact List.Lex.rel before

/-- The segments lead to the goals of the passages, in their order. -/
theorem foldl_follow_eq_goals (segments : List Segment) (starts : List (Location × Json)) :
    (segments.foldl (fun nodes segment => nodes.flatMap segment.follow) starts).map (·.1) =
      starts.flatMap fun here => (passages segments here.2).map fun legs => here.1 ++ goal legs := by
  induction segments generalizing starts with
  | nil => simp [passages, goal, List.map_eq_flatMap]
  | cons segment rest ih =>
    rw [List.foldl_cons, ih, List.flatMap_assoc]
    refine List.flatMap_congr fun here _ => ?_
    rw [follow_eq_legs, passages, List.flatMap_map, List.map_flatMap]
    refine List.flatMap_congr fun next _ => ?_
    simp only [List.map_map, Function.comp_def, goal_cons, List.append_assoc]

theorem locate_eq_goals (path : Path) (root : Json) :
    path.locate root = ((passages path.segments root).map goal).eraseDups := by
  rw [Path.locate, follow, foldl_follow_eq_goals, List.flatMap_singleton]
  simp only [List.nil_append]

/-- What a path comes to are the goals of its passages. -/
theorem mem_locate_iff_passes {path : Path} {root : Json} (formed : root.WellFormed) {here : Location} :
    here ∈ path.locate root ↔ ∃ legs, Passes path.segments root legs ∧ goal legs = here := by
  rw [locate_eq_goals, List.mem_eraseDups, List.mem_map]
  simp only [mem_passages formed]

/-! ### First passages -/

/-- Of a list in order each value is kept where it is met first. -/
theorem pairwise_eraseDups_map {α β : Type} [BEq β] [LawfulBEq β] {Before : α → α → Prop} {f : α → β}
    {xs : List α} (ordered : xs.Pairwise Before) :
    (xs.map f).eraseDups.Pairwise fun a b => ∃ x ∈ xs, f x = a ∧ ∀ y ∈ xs, f y = b → Before x y := by
  induction xs using List.reverseRecOn with
  | nil => exact List.Pairwise.nil
  | append_singleton xs last ih =>
    obtain ⟨front, -, apart⟩ := List.pairwise_append.mp ordered
    have before : ∀ x ∈ xs, Before x last := fun x listed => apart x listed last (List.mem_singleton_self last)
    have kept := (ih front).imp (S := fun a b =>
        ∃ x ∈ xs ++ [last], f x = a ∧ ∀ y ∈ xs ++ [last], f y = b → Before x y) <| by
      rintro a b ⟨x, listed, same, first⟩
      refine ⟨x, List.mem_append_left _ listed, same, fun y met same' => ?_⟩
      rcases List.mem_append.mp met with earlier | here
      · exact first y earlier same'
      · exact List.mem_singleton.mp here ▸ before x listed
    rw [List.map_append, List.map_singleton, List.eraseDups_append]
    by_cases again : f last ∈ xs.map f
    · simpa [List.removeAll, again] using kept
    · have single : ([f last].removeAll (xs.map f)).eraseDups = [f last] := by
        simp [List.removeAll, again, List.eraseDups_cons]
      rw [single]
      refine List.pairwise_append.mpr ⟨kept, List.pairwise_singleton _ _, fun a met b here => ?_⟩
      obtain ⟨x, listed, rfl⟩ := List.mem_map.mp (List.mem_eraseDups.mp met)
      refine ⟨x, List.mem_append_left _ listed, rfl, fun y met same => ?_⟩
      rcases List.mem_append.mp met with earlier | here'
      · rw [List.mem_singleton.mp here] at same
        exact absurd (same ▸ List.mem_map_of_mem earlier) again
      · exact List.mem_singleton.mp here' ▸ before x listed

/-- There is a passage to the one location before all passages to the other. -/
def PassedFirst (segments : List Segment) (root : Json) (here later : Location) : Prop :=
  ∃ legs, Passes segments root legs ∧ goal legs = here ∧
    ∀ legs', Passes segments root legs' → goal legs' = later → legs < legs'

theorem pairwise_either {α : Type} {R : α → α → Prop} {xs : List α} (ordered : xs.Pairwise R) {a b : α}
    (first : a ∈ xs) (second : b ∈ xs) (other : a ≠ b) : R a b ∨ R b a := by
  have symmetric : Std.Symm fun x y => R x y ∨ R y x := ⟨fun _ _ => Or.symm⟩
  have either : xs.Pairwise fun x y => R x y ∨ R y x := ordered.imp Or.inl
  exact either.forall first second other

theorem pairwise_passedFirst (path : Path) {root : Json} (formed : root.WellFormed) :
    (path.locate root).Pairwise (PassedFirst path.segments root) := by
  have ordered := pairwise_eraseDups_map (f := goal) (pairwise_passages path.segments formed)
  rw [← locate_eq_goals] at ordered
  simp only [mem_passages formed] at ordered
  exact ordered

theorem PassedFirst.asymm {segments : List Segment} {root : Json} {here later : Location}
    (first : PassedFirst segments root here later) : ¬ PassedFirst segments root later here := by
  rintro ⟨legs', passes', ends', before'⟩
  obtain ⟨legs, passes, ends, before⟩ := first
  exact lt_asymm (before legs' passes' ends') (before' legs passes ends)

/-- The order of the document is that of the first passages just when no location is passed first after a later
one. -/
theorem locate_sublist_walked_iff (path : Path) {root : Json} (formed : root.WellFormed) :
    (path.locate root).Sublist root.walked ↔
      ∀ here ∈ path.locate root, ∀ later ∈ path.locate root, here < later →
        PassedFirst path.segments root here later := by
  have listed := pairwise_passedFirst path formed
  rw [sublist_walked_iff formed fun here named => ((mem_locate formed).mp named).exists_get?]
  constructor
  · intro ordered here named later named' before
    rcases pairwise_either (listed.and ordered) named named' (ne_of_lt before) with ⟨passed, -⟩ | ⟨-, after⟩
    · exact passed
    · exact absurd before (lt_asymm after)
  · intro first
    refine listed.imp_of_mem fun {here later} named named' passed => ?_
    rcases lt_trichotomy here later with before | same | after
    · exact before
    · exact absurd (same ▸ passed) fun itself => itself.asymm itself
    · exact absurd passed (first later named' here named after).asymm

/-! ### Selectors in order -/

/-- No selector of the segment picks a child that stands before one that an earlier selector picks. -/
def Segment.InOrder (segment : Segment) : Prop :=
  ∀ node : Json, node.WellFormed → segment.selectors.Pairwise fun selector later =>
    ∀ s t, selector.Picks node s → later.Picks node t → s ≤ t

theorem Segment.inOrder_of_single (recursive : Bool) (selector : Selector) :
    Segment.InOrder ⟨recursive, [selector]⟩ :=
  fun _ _ => List.pairwise_singleton _ _

/-- Legs of one step, by selectors in order, are in the order of their steps. -/
theorem Segment.InOrder.le {segment : Segment} (inOrder : segment.InOrder) (plain : segment.recursive = false)
    {node : Json} (formed : node.WellFormed) {leg later : Leg} (takes : segment.Takes node leg)
    (takes' : segment.Takes node later) (before : leg < later) :
    leg.path = later.path ∨ ∀ rest rest', leg.path ++ rest < later.path ++ rest' := by
  obtain ⟨root, below, selector, found, listed, picks⟩ := takes
  obtain ⟨root', below', selector', found', listed', picks'⟩ := takes'
  rw [root plain] at found
  rw [root' plain] at found'
  cases found
  cases found'
  rw [Leg.path, Leg.path, root plain, root' plain]
  have steps : leg.step ≤ later.step := by
    rcases Leg.lt_iff.mp before with ways | ⟨-, ranks | ⟨-, steps⟩⟩
    · rw [root plain, root' plain] at ways
      exact absurd ways (lt_irrefl _)
    · obtain ⟨first, sameFirst⟩ := List.getElem?_eq_some_iff.mp listed
      obtain ⟨second, sameSecond⟩ := List.getElem?_eq_some_iff.mp listed'
      have pair := List.pairwise_iff_getElem.mp (inOrder node formed) _ _ first second ranks
      rw [sameFirst, sameSecond] at pair
      exact pair _ _ picks picks'
    · exact le_of_lt steps
  rcases eq_or_lt_of_le steps with same | less
  · exact .inl (by rw [same])
  · exact .inr fun rest rest' => Location.lt_of_steps [] less rest rest'

/-- Where a passage ends before another one, some passage to the same place comes before the other one. -/
theorem exists_passage_before {segments : List Segment}
    (plain : ∀ segment ∈ segments, segment.recursive = false ∧ segment.InOrder) {node : Json}
    (formed : node.WellFormed) {legs later : List Leg} (passes : Passes segments node legs)
    (passes' : Passes segments node later) (before : goal legs < goal later) :
    ∃ first, Passes segments node first ∧ goal first = goal legs ∧ first < later := by
  induction segments generalizing node legs later with
  | nil =>
    cases passes
    cases passes'
    exact absurd before (lt_irrefl _)
  | cons segment rest ih =>
    obtain ⟨⟨flat, inOrder⟩, onward⟩ := List.forall_mem_cons.mp plain
    cases passes with
    | @cons _ _ _ child leg legs takes found passes =>
      cases passes' with
      | @cons _ _ _ child' leg' later takes' found' passes' =>
        rw [goal_cons, goal_cons] at before
        -- Where the first legs end at one node, the rest decides, and the later passage lends its first leg.
        have joined : leg.path = leg'.path → ∃ first, Passes (segment :: rest) node first ∧
            goal first = goal (leg :: legs) ∧ first < leg' :: later := by
          intro same
          rw [same] at before found
          cases found.symm.trans found'
          have inner : goal legs < goal later := by
            by_contra reversed
            rcases eq_or_lt_of_le (not_lt.mp reversed) with level | behind
            · exact absurd before (by rw [level]; exact lt_irrefl _)
            · exact lt_asymm before (Location.append_lt_append _ behind)
          obtain ⟨first, passed, ends, earlier⟩ := ih onward (formed.get? found) passes passes' inner
          refine ⟨leg' :: first, .cons takes' found' passed, ?_, List.Lex.cons earlier⟩
          rw [goal_cons, goal_cons, ends, same]
        rcases lt_trichotomy leg leg' with less | same | greater
        · exact ⟨leg :: legs, .cons takes found passes, rfl, List.Lex.rel less⟩
        · exact joined (congrArg Leg.path same)
        · rcases inOrder.le flat formed takes' takes greater with same | apart
          · exact joined same.symm
          · exact absurd before (lt_asymm (apart _ _))

/-- A path without two points, with selectors in order, names locations in the order of the document. -/
theorem locate_sublist_walked_of_plain {path : Path}
    (plain : ∀ segment ∈ path.segments, segment.recursive = false ∧ segment.InOrder) {root : Json}
    (formed : root.WellFormed) : (path.locate root).Sublist root.walked := by
  refine (locate_sublist_walked_iff path formed).mpr fun here named later named' before => ?_
  refine (pairwise_either (pairwise_passedFirst path formed) named named' (ne_of_lt before)).resolve_right ?_
  rintro ⟨legs', passes', ends', first⟩
  obtain ⟨legs, passes, ends⟩ := (mem_locate_iff_passes formed).mp named
  rw [← ends, ← ends'] at before
  obtain ⟨earlier, passed, ends'', sooner⟩ := exists_passage_before plain formed passes passes' before
  exact lt_asymm sooner (first earlier passed (ends''.trans ends))

/-- A path lists what it names in the order of the first passages there. That is the order in which a walk of the
document meets the locations just when none of them is passed first after a later one; so it is for paths without two
points whose selectors are in order. -/
theorem locate_lists_by_first_passage (path : Path) {root : Json} (formed : root.WellFormed) :
    (path.locate root).Pairwise (PassedFirst path.segments root) ∧
      ((path.locate root).Sublist root.walked ↔
        ∀ here ∈ path.locate root, ∀ later ∈ path.locate root, here < later →
          PassedFirst path.segments root here later) ∧
      ((∀ segment ∈ path.segments, segment.recursive = false ∧ segment.InOrder) →
        (path.locate root).Sublist root.walked) :=
  ⟨pairwise_passedFirst path formed, locate_sublist_walked_iff path formed,
    fun plain => locate_sublist_walked_of_plain plain formed⟩

/-- The members of each object are listed in the order of their names, object by object. -/
theorem listed_members_are_in_order :
    let root : Json := .arr [.obj [("a", .null), ("b", .null), ("c", .null)], .obj [("b", .null)]]
    ∃ path, Path.parse "$[*]['a','b']" = .ok path ∧ (path.locate root).Sublist root.walked ∧
      path.locate root = [[.index 0, .key "a"], [.index 0, .key "b"], [.index 1, .key "b"]] := by
  intro root
  let path : Path := ⟨"$[*]['a','b']", [⟨false, [.wildcard]⟩, ⟨false, [.name "a", .name "b"]⟩]⟩
  have read : Path.parse "$[*]['a','b']" = .ok path := rfl
  have formed : root.WellFormed := by
    have sorted : "a" < "b" ∧ "a" < "c" ∧ "b" < "c" := by decide
    simp only [root, WellFormed, WellFormedMembers, WellFormedItems, Members.Ordered, List.pairwise_cons,
      List.forall_mem_cons, List.not_mem_nil, false_imp_iff, implies_true, List.Pairwise.nil, sorted, and_self]
  have inOrder : Segment.InOrder ⟨false, [.name "a", .name "b"]⟩ := by
    refine fun node _ => List.pairwise_pair.mpr fun s t first second => ?_
    cases first
    cases second
    exact le_of_lt (Step.key_lt_key.mpr (by decide))
  obtain ⟨-, -, plain⟩ := locate_lists_by_first_passage path formed
  refine ⟨path, read, plain ?_, by decide⟩
  exact List.forall_mem_cons.mpr ⟨⟨rfl, Segment.inOrder_of_single false .wildcard⟩,
    List.forall_mem_singleton.mpr ⟨rfl, inOrder⟩⟩

/-- The outer `b` is passed first from the root, though the document has the inner one before it. -/
theorem inner_member_is_listed_late :
    let root : Json := .obj [("a", .obj [("b", whole 1)]), ("b", whole 2)]
    ∃ path, Path.parse "$..b" = .ok path ∧ path.locate root = [[.key "b"], [.key "a", .key "b"]] ∧
      root.walked = [[], [.key "a"], [.key "a", .key "b"], [.key "b"]] ∧
      ¬ (path.locate root).Sublist root.walked := by
  intro root
  let path : Path := ⟨"$..b", [⟨true, [.name "b"]⟩]⟩
  have listed : path.locate root = [[.key "b"], [.key "a", .key "b"]] := by
    simp [path, root, Path.locate, follow, Segment.follow, descendants, walk, selectAll, Selector.choose,
      Members.get?, nodesBelow, children, whole, List.eraseDups_cons]
  have walked : root.walked = [[], [.key "a"], [.key "a", .key "b"], [.key "b"]] := by rfl
  refine ⟨path, rfl, listed, walked, ?_⟩
  rw [listed, walked]
  decide

end Relay.Json
