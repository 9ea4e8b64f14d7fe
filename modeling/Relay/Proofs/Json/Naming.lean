import Relay.Json.Path
import Relay.Proofs.Json.Legible
import Relay.Proofs.Json.Overlay

/-!
# What a path names

A path names a location that falls into one part for each segment: some steps down, if the segment is
recursive, and one step that a selector picks. `mem_locate` says that `locate` gives these locations and no
others; `Names.congr` says that whether a location is named depends only on the nodes above it.
-/

namespace Relay.Json

/-! ### Children and nodes below -/

theorem WellFormed.child {v child : Json} (formed : v.WellFormed) {step : Step}
    (found : v.child? step = some child) : child.WellFormed := by
  cases v <;> cases step <;> simp only [child?, reduceCtorEq] at found
  · exact (wellFormedItems_iff _).mp formed child (List.mem_of_getElem? found)
  · exact (wellFormedMembers_iff _).mp formed.2 _ (Members.mem_of_get? found)

theorem WellFormed.get? {v node : Json} (formed : v.WellFormed) {location : Location}
    (found : v.get? location = some node) : node.WellFormed := by
  induction location generalizing v with
  | nil =>
    cases found
    exact formed
  | cons step rest ih =>
    obtain ⟨child, here, below⟩ := Option.bind_eq_some_iff.mp found
    exact ih (formed.child here) below

theorem mem_indexed {i : Nat} {items : List Json} {step : Step} {w : Json} :
    (step, w) ∈ indexed i items ↔ ∃ j, step = .index (i + j) ∧ items[j]? = some w := by
  induction items generalizing i with
  | nil => simp [indexed]
  | cons v rest ih =>
    rw [indexed, List.mem_cons, ih]
    constructor
    · rintro (same | ⟨j, rfl, found⟩)
      · cases same
        exact ⟨0, rfl, rfl⟩
      · exact ⟨j + 1, by rw [Nat.add_right_comm, Nat.add_assoc], found⟩
    · rintro ⟨_ | j, rfl, found⟩
      · cases found
        exact .inl rfl
      · exact .inr ⟨j, by rw [Nat.add_right_comm, Nat.add_assoc], found⟩

theorem mem_children {v : Json} (formed : v.WellFormed) {step : Step} {w : Json} :
    (step, w) ∈ v.children ↔ v.child? step = some w := by
  cases v with
  | arr items =>
    rw [children, mem_indexed]
    cases step <;> simp [child?]
  | obj members =>
    rw [children, List.mem_map]
    constructor
    · rintro ⟨member, present, same⟩
      cases same
      exact Members.get?_of_mem formed.1 present
    · intro found
      cases step with
      | key name => exact ⟨(name, w), Members.mem_of_get? found, rfl⟩
      | index i => cases found
  | _ => simp [children, child?]

theorem mem_nodesBelow {here below : Location × Json} (formed : here.2.WellFormed) :
    below ∈ nodesBelow here ↔
      ∃ step, below.1 = here.1 ++ [step] ∧ here.2.child? step = some below.2 := by
  rw [nodesBelow, List.mem_map]
  constructor
  · rintro ⟨⟨step, w⟩, present, rfl⟩
    exact ⟨step, rfl, (mem_children formed).mp present⟩
  · rintro ⟨step, same, found⟩
    exact ⟨(step, below.2), (mem_children formed).mpr found, Prod.ext same.symm rfl⟩

theorem eq_of_mem_nodesBelow {above here other : Location × Json} (formed : above.2.WellFormed)
    (below : here ∈ nodesBelow above) (beside : other ∈ nodesBelow above) (same : here.1 = other.1) :
    here = other := by
  obtain ⟨step, location, child⟩ := (mem_nodesBelow formed).mp below
  obtain ⟨step', location', child'⟩ := (mem_nodesBelow formed).mp beside
  have steps : [step] = [step'] := List.append_cancel_left (location.symm.trans (same.trans location'))
  rw [List.cons.inj steps |>.1, child'] at child
  exact Prod.ext same (Option.some.inj child).symm

theorem size_lt_of_mem_nodesBelow {here below : Location × Json} (present : below ∈ nodesBelow here) :
    below.2.size < here.2.size := by
  obtain ⟨front, back, same⟩ := List.append_of_mem present
  have total := stackSize_nodesBelow_lt here
  rw [same, stackSize_append, stackSize] at total
  omega

theorem size_lt_of_child? {v child : Json} (formed : v.WellFormed) {step : Step}
    (found : v.child? step = some child) : child.size < v.size := by
  have below : ([step], child) ∈ nodesBelow ([], v) := (mem_nodesBelow formed).mpr ⟨step, rfl, found⟩
  exact size_lt_of_mem_nodesBelow below

/-! ### Walking -/

theorem walk_append (front back : List (Location × Json)) : walk (front ++ back) = walk front ++ walk back := by
  induction front using walk.induct with
  | case1 => rw [walk, List.nil_append, List.nil_append]
  | case2 here stack ih =>
    rw [List.cons_append, walk, walk, List.cons_append, ← List.append_assoc, ih]

/-- The nodes below a node, child by child. -/
theorem descendants_eq (origin : Location) (v : Json) :
    descendants origin v =
      (origin, v) :: (nodesBelow (origin, v)).flatMap fun below => descendants below.1 below.2 := by
  have each : ∀ stack, walk stack = stack.flatMap fun here => descendants here.1 here.2 := by
    intro stack
    induction stack with
    | nil => rw [walk, List.flatMap_nil]
    | cons here stack ih =>
      have split : walk (here :: stack) = walk [here] ++ walk stack := walk_append [here] stack
      rw [split, ih, List.flatMap_cons, descendants]
  rw [descendants, walk, List.append_nil, each]

theorem mem_descendants {origin : Location} {v : Json} (formed : v.WellFormed) {here : Location × Json} :
    here ∈ descendants origin v ↔ ∃ rest, here.1 = origin ++ rest ∧ v.get? rest = some here.2 := by
  rw [descendants_eq, List.mem_cons, List.mem_flatMap]
  constructor
  · rintro (rfl | ⟨below, present, inside⟩)
    · exact ⟨[], (List.append_nil _).symm, rfl⟩
    · have smaller := size_lt_of_mem_nodesBelow present
      obtain ⟨step, same, child⟩ := (mem_nodesBelow formed).mp present
      obtain ⟨rest, further, found⟩ := (mem_descendants (formed.child child)).mp inside
      refine ⟨step :: rest, by rw [further, same, List.append_assoc, List.singleton_append], ?_⟩
      rw [get?, child]
      exact found
  · rintro ⟨_ | ⟨step, rest⟩, same, found⟩
    · cases found
      exact .inl (Prod.ext (same.trans (List.append_nil _)) rfl)
    · obtain ⟨child, first, found⟩ := Option.bind_eq_some_iff.mp found
      have present : (origin ++ [step], child) ∈ nodesBelow (origin, v) :=
        (mem_nodesBelow formed).mpr ⟨step, rfl, first⟩
      have smaller := size_lt_of_mem_nodesBelow present
      refine .inr ⟨_, present, (mem_descendants (formed.child first)).mpr ⟨rest, ?_, found⟩⟩
      rw [same, List.append_assoc, List.singleton_append]
termination_by v.size

/-! ### Selectors -/

/-- The selector picks the child that the step leads to. -/
inductive Selector.Picks : Selector → Json → Step → Prop
  | name {node : Json} {key : String} (present : (node.child? (.key key)).isSome) :
    Picks (.name key) node (.key key)
  | wildcard {node : Json} {step : Step} (present : (node.child? step).isSome) : Picks .wildcard node step
  /-- A negative index counts from the end. -/
  | index {items : List Json} {k : Int} {i : Nat} (within : i < items.length)
      (counted : k = i ∨ k = (i : Int) - items.length) : Picks (.index k) (.arr items) (.index i)

theorem Selector.Picks.present {selector : Selector} {node : Json} {step : Step}
    (picks : selector.Picks node step) : ∃ child, node.child? step = some child := by
  cases picks with
  | name present => exact Option.isSome_iff_exists.mp present
  | wildcard present => exact Option.isSome_iff_exists.mp present
  | index within counted => exact ⟨_, List.getElem?_eq_getElem within⟩

theorem position_eq_some_iff {k : Int} {length i : Nat} (within : i < length) :
    position k length = some i ↔ k = i ∨ k = (i : Int) - length := by
  simp only [position, Option.ite_none_right_eq_some, Option.some.injEq]
  split <;> omega

theorem choose_name (key : String) (node : Json) :
    (Selector.name key).choose node = ((node.child? (.key key)).map fun child => (.key key, child)).toList := by
  cases node with
  | obj members =>
    rw [Selector.choose, child?]
    cases Members.get? key members <;> rfl
  | _ => rfl

theorem choose_index (k : Int) (items : List Json) :
    (Selector.index k).choose (.arr items) =
      ((position k items.length).bind fun i => items[i]?.map fun child => (.index i, child)).toList := by
  rw [Selector.choose]
  cases position k items.length with
  | none => rfl
  | some i => cases found : items[i]? <;> simp [found]

theorem mem_choose {selector : Selector} {node : Json} (formed : node.WellFormed) {step : Step} {w : Json} :
    (step, w) ∈ selector.choose node ↔ selector.Picks node step ∧ node.child? step = some w := by
  cases selector with
  | wildcard =>
    rw [Selector.choose, mem_children formed]
    exact ⟨fun found => ⟨.wildcard (Option.isSome_of_mem found), found⟩, And.right⟩
  | name key =>
    rw [choose_name, Option.mem_toList, Option.map_eq_some_iff]
    constructor
    · rintro ⟨child, found, same⟩
      cases same
      exact ⟨.name (Option.isSome_of_mem found), found⟩
    · rintro ⟨picks, found⟩
      cases picks
      exact ⟨w, found, rfl⟩
  | index k =>
    constructor
    · intro chosen
      cases node with
      | arr items =>
        rw [choose_index, Option.mem_toList] at chosen
        obtain ⟨i, resolved, chosen⟩ := Option.bind_eq_some_iff.mp chosen
        obtain ⟨child, found, same⟩ := Option.map_eq_some_iff.mp chosen
        cases same
        have within := (List.getElem?_eq_some_iff.mp found).1
        exact ⟨.index within ((position_eq_some_iff within).mp resolved), found⟩
      | _ => exact absurd chosen List.not_mem_nil
    · rintro ⟨picks, found⟩
      cases picks with
      | @index items k i within counted =>
        have found : items[i]? = some w := found
        rw [choose_index, (position_eq_some_iff within).mpr counted, Option.bind_some, found]
        exact List.mem_singleton_self _

theorem mem_selectAll {selectors : List Selector} {here next : Location × Json} (formed : here.2.WellFormed) :
    next ∈ selectAll selectors here ↔ ∃ step, next.1 = here.1 ++ [step] ∧
      here.2.child? step = some next.2 ∧ ∃ selector ∈ selectors, selector.Picks here.2 step := by
  rw [selectAll, List.mem_flatMap]
  constructor
  · rintro ⟨selector, listed, chosen⟩
    obtain ⟨⟨step, w⟩, picked, rfl⟩ := List.mem_map.mp chosen
    obtain ⟨picks, found⟩ := (mem_choose formed).mp picked
    exact ⟨step, rfl, found, selector, listed, picks⟩
  · rintro ⟨step, same, found, selector, listed, picks⟩
    have chosen := (mem_choose formed).mpr ⟨picks, found⟩
    exact ⟨selector, listed, List.mem_map.mpr ⟨(step, next.2), chosen, Prod.ext same.symm rfl⟩⟩

/-! ### Segments -/

/-- The segment leads from a node to what is found at a location below it. -/
def Segment.Leads (segment : Segment) (node : Json) (part : Location) : Prop :=
  ∃ way step below, part = way ++ [step] ∧ (segment.recursive = false → way = []) ∧
    node.get? way = some below ∧ ∃ selector ∈ segment.selectors, selector.Picks below step

theorem get?_concat {v below : Json} {way : Location} (found : v.get? way = some below) (step : Step) :
    v.get? (way ++ [step]) = below.child? step := by
  rw [get?_append, found, Option.bind_some, get?]
  exact Option.bind_fun_some _

theorem mem_follow_segment {segment : Segment} {here next : Location × Json} (formed : here.2.WellFormed) :
    next ∈ segment.follow here ↔ ∃ part, next.1 = here.1 ++ part ∧ segment.Leads here.2 part ∧
      here.2.get? part = some next.2 := by
  rw [Segment.follow, List.mem_flatMap]
  constructor
  · rintro ⟨start, starts, chosen⟩
    obtain ⟨way, same, plain, found⟩ : ∃ way, start.1 = here.1 ++ way ∧
        (segment.recursive = false → way = []) ∧ here.2.get? way = some start.2 := by
      split at starts
      · rename_i recursive
        obtain ⟨way, same, found⟩ := (mem_descendants formed).mp starts
        exact ⟨way, same, fun plain => absurd recursive (by simp [plain]), found⟩
      · cases List.mem_singleton.mp starts
        exact ⟨[], (List.append_nil _).symm, fun _ => rfl, rfl⟩
    obtain ⟨step, further, child, picks⟩ := (mem_selectAll (formed.get? found)).mp chosen
    refine ⟨way ++ [step], ?_, ⟨way, step, start.2, rfl, plain, found, picks⟩, ?_⟩
    · rw [further, same, List.append_assoc]
    · rw [get?_concat found, child]
  · rintro ⟨part, same, ⟨way, step, below, rfl, plain, found, picks⟩, there⟩
    rw [get?_concat found] at there
    refine ⟨(here.1 ++ way, below), ?_, (mem_selectAll (formed.get? found)).mpr ⟨step, ?_, there, picks⟩⟩
    · split
      · exact (mem_descendants formed).mpr ⟨way, rfl, found⟩
      · rename_i plain'
        cases plain (Bool.eq_false_of_not_eq_true plain')
        cases found
        exact List.mem_singleton.mpr (Prod.ext (List.append_nil _) rfl)
    · rw [same, List.append_assoc]

/-! ### Paths -/

/-- The segments lead, one after the other, from a node to what is found at a location below it. -/
inductive Names : List Segment → Json → Location → Prop
  | nil {node : Json} : Names [] node []
  | cons {segment : Segment} {rest : List Segment} {node below : Json} {part further : Location}
      (leads : segment.Leads node part) (found : node.get? part = some below)
      (names : Names rest below further) : Names (segment :: rest) node (part ++ further)

theorem mem_foldl_follow (segments : List Segment) {starts : List (Location × Json)}
    (formed : ∀ start ∈ starts, start.2.WellFormed) {here : Location × Json} :
    here ∈ segments.foldl (fun nodes segment => nodes.flatMap segment.follow) starts ↔
      ∃ start ∈ starts, ∃ part, here.1 = start.1 ++ part ∧ Names segments start.2 part ∧
        start.2.get? part = some here.2 := by
  induction segments generalizing starts with
  | nil =>
    constructor
    · intro present
      exact ⟨here, present, [], (List.append_nil _).symm, .nil, rfl⟩
    · rintro ⟨start, present, part, same, names, found⟩
      cases names
      have itself : here = start := Prod.ext (same.trans (List.append_nil _)) (Option.some.inj found).symm
      exact itself ▸ present
  | cons segment rest ih =>
    have later : ∀ next ∈ starts.flatMap segment.follow, next.2.WellFormed := by
      intro next present
      obtain ⟨start, starts, followed⟩ := List.mem_flatMap.mp present
      obtain ⟨part, -, -, found⟩ := (mem_follow_segment (formed start starts)).mp followed
      exact (formed start starts).get? found
    rw [List.foldl_cons, ih later]
    constructor
    · rintro ⟨next, present, further, same, names, found⟩
      obtain ⟨start, starts, followed⟩ := List.mem_flatMap.mp present
      obtain ⟨part, here, leads, there⟩ := (mem_follow_segment (formed start starts)).mp followed
      refine ⟨start, starts, part ++ further, ?_, .cons leads there names, ?_⟩
      · rw [same, here, List.append_assoc]
      · rw [get?_append, there]
        exact found
    · rintro ⟨start, present, _, same, names, found⟩
      cases names with
      | @cons _ _ _ below part further leads there names =>
        rw [get?_append, there] at found
        refine ⟨(start.1 ++ part, below), List.mem_flatMap.mpr ⟨start, present, ?_⟩, further, ?_, names,
          found⟩
        · exact (mem_follow_segment (formed start present)).mpr ⟨part, rfl, leads, there⟩
        · rw [same, List.append_assoc]

theorem mem_follow {segments : List Segment} {root : Json} (formed : root.WellFormed) {here : Location × Json} :
    here ∈ follow segments root ↔ Names segments root here.1 ∧ root.get? here.1 = some here.2 := by
  have starts : ∀ start ∈ [(([] : Location), root)], start.2.WellFormed :=
    fun start present => List.mem_singleton.mp present ▸ formed
  rw [follow, mem_foldl_follow segments starts]
  constructor
  · rintro ⟨start, present, part, same, named⟩
    cases List.mem_singleton.mp present
    exact same.trans (List.nil_append _) ▸ named
  · intro named
    exact ⟨([], root), List.mem_singleton_self _, here.1, rfl, named⟩

theorem Names.exists_get? {segments : List Segment} {root : Json} {location : Location}
    (names : Names segments root location) : ∃ node, root.get? location = some node := by
  induction names with
  | nil => exact ⟨_, rfl⟩
  | cons leads found names ih =>
    rw [get?_append, found]
    exact ih

theorem mem_locate {path : Path} {root : Json} (formed : root.WellFormed) {location : Location} :
    location ∈ path.locate root ↔ Names path.segments root location := by
  rw [Path.locate, List.mem_eraseDups, List.mem_map]
  constructor
  · rintro ⟨here, present, rfl⟩
    exact ((mem_follow formed).mp present).1
  · intro names
    obtain ⟨node, found⟩ := names.exists_get?
    exact ⟨(location, node), (mem_follow formed).mpr ⟨names, found⟩, rfl⟩

/-! ### What the naming of a location depends on -/

theorem child?_shell (v : Json) (step : Step) : (v.shell.child? step).isSome = (v.child? step).isSome := by
  cases v <;> cases step <;> try rfl
  · simp only [shell, child?, List.getElem?_map, Option.isSome_map]
  · rename_i members name
    simp only [shell, child?]
    induction members with
    | nil => rfl
    | cons member rest ih =>
      rw [List.map_cons, Members.get?, Members.get?]
      split
      · rfl
      · exact ih

theorem isSome_child?_congr {v v' : Json} (same : v.shell = v'.shell) (step : Step) :
    (v.child? step).isSome = (v'.child? step).isSome := by
  rw [← child?_shell v, same, child?_shell]

theorem Selector.Picks.congr {selector : Selector} {v v' : Json} (same : v.shell = v'.shell) {step : Step}
    (picks : selector.Picks v step) : selector.Picks v' step := by
  cases picks with
  | name present => exact .name (isSome_child?_congr same _ ▸ present)
  | wildcard present => exact .wildcard (isSome_child?_congr same _ ▸ present)
  | @index items k i within counted =>
    cases v' with
    | arr items' =>
      have length : items.length = items'.length := by
        simpa [shell] using congrArg List.length (Json.arr.inj same)
      exact .index (length ▸ within) (length ▸ counted)
    | _ => cases same

/-- Two documents are alike at a location: nothing there in either of them, or nodes with the same shell. -/
def AlikeAt (v v' : Json) (location : Location) : Prop :=
  (v.get? location).map shell = (v'.get? location).map shell

theorem AlikeAt.some {v v' node : Json} {location : Location} (alike : AlikeAt v v' location)
    (found : v.get? location = some node) :
    ∃ node', v'.get? location = some node' ∧ node.shell = node'.shell := by
  rw [AlikeAt, found] at alike
  obtain ⟨node', found', same⟩ := Option.map_eq_some_iff.mp alike.symm
  exact ⟨node', found', same.symm⟩

theorem AlikeAt.child {v v' child child' : Json} {step : Step} {rest : Location}
    (alike : AlikeAt v v' (step :: rest)) (found : v.child? step = .some child)
    (found' : v'.child? step = .some child') : AlikeAt child child' rest := by
  rwa [AlikeAt, get?, get?, found, found'] at alike

theorem eq_of_alikeAt {v v' : Json} (formed : v.WellFormed) (formed' : v'.WellFormed)
    (alike : ∀ here, AlikeAt v v' here) : v = v' := by
  have root : v.shell = v'.shell := Option.some.inj (alike [])
  have children : ∀ step child child', v.child? step = some child → v'.child? step = some child' →
      child = child' := by
    intro step child child' found found'
    have smaller := size_lt_of_child? formed found
    exact eq_of_alikeAt (formed.child found) (formed'.child found') fun rest =>
      (alike (step :: rest)).child found found'
  cases v with
  | arr items =>
    cases v' with
    | arr items' =>
      have length : items.length = items'.length := by
        simpa [shell] using congrArg List.length (Json.arr.inj root)
      refine congrArg Json.arr (List.ext_getElem length fun i within within' => ?_)
      exact children (.index i) _ _ (List.getElem?_eq_getElem within) (List.getElem?_eq_getElem within')
    | _ => cases root
  | obj members =>
    cases v' with
    | obj members' =>
      have names : members.map (·.1) = members'.map (·.1) := by
        simpa [shell, Function.comp_def] using congrArg (List.map (·.1)) (Json.obj.inj root)
      have length : members.length = members'.length := by simpa using congrArg List.length names
      refine congrArg Json.obj (List.ext_getElem length fun i within within' => ?_)
      have name : members[i].1 = members'[i].1 := by
        have same : (members.map (·.1))[i]? = (members'.map (·.1))[i]? := by rw [names]
        simpa [within, within'] using same
      have found := Members.get?_of_mem formed.1 (List.getElem_mem within)
      have found' := Members.get?_of_mem formed'.1 (List.getElem_mem within')
      exact Prod.ext name (children (.key members[i].1) _ _ found (name ▸ found'))
    | _ => cases root
  | _ => cases v' <;> first | exact root | cases root
termination_by v.size

theorem Segment.Leads.exists_get? {segment : Segment} {v : Json} {part : Location}
    (leads : segment.Leads v part) : ∃ node, v.get? part = some node := by
  obtain ⟨way, step, below, rfl, -, found, selector, -, picks⟩ := leads
  rw [get?_concat found]
  exact picks.present

theorem Segment.Leads.congr {segment : Segment} {v v' : Json} {part : Location} (leads : segment.Leads v part)
    (alike : ∀ above, above.Above part → AlikeAt v v' above) : segment.Leads v' part := by
  obtain ⟨way, step, below, rfl, plain, found, selector, listed, picks⟩ := leads
  obtain ⟨below', found', same⟩ := (alike way ⟨step, [], rfl⟩).some found
  exact ⟨way, step, below', rfl, plain, found', selector, listed, picks.congr same⟩

/-- A location that is named stays so in a document that is alike above it. -/
theorem Names.congr {segments : List Segment} {v v' : Json} {location : Location}
    (names : Names segments v location) (alike : ∀ above, above.Above location → AlikeAt v v' above) :
    Names segments v' location := by
  induction names generalizing v' with
  | nil => exact .nil
  | @cons segment rest node below part further leads found names ih =>
    have leads' : segment.Leads v' part := leads.congr fun above higher => alike above (higher.append further)
    obtain ⟨below', found'⟩ := leads'.exists_get?
    refine .cons leads' found' (ih fun above higher => ?_)
    have there : AlikeAt node v' (part ++ above) := alike _ ((Location.append_above_append part).mpr higher)
    rwa [AlikeAt, get?_append, get?_append, found, found'] at there

end Relay.Json
