import Relay.Json.Path.Reader
import Relay.Proofs.Json.Naming

/-!
# The order of the locations that a path names

Segments may lead to a node many times, and to it again after the nodes below it. Yet each node is met for the
first time before those below it (`Leading`), so that `locate` lists every location before those below it:
`pairwise_locate`, and by positions `locations_come_from_above`.
-/

namespace Relay.Json

/-! ### Lists that lead from above -/

section Leading

variable {α β : Type} {Over : α → α → Prop} {Over' : β → β → Prop}

/-- What lies over an element of the list is met before it, where the list has it at all. -/
def Leading (Over : α → α → Prop) (xs : List α) : Prop :=
  ∀ front, front <+: xs → ∀ x ∈ front, ∀ y ∈ xs, Over y x → y ∈ front

theorem leading_of_none {xs : List α} (none : ∀ x ∈ xs, ∀ y ∈ xs, ¬ Over y x) : Leading Over xs :=
  fun _ begins x present y listed higher => absurd higher (none x (begins.subset present) y listed)

theorem Leading.cons {first : α} {xs : List α} (top : ∀ y ∈ xs, ¬ Over y first)
    (leading : Leading Over xs) : Leading Over (first :: xs) := by
  intro front begins x present y listed higher
  rcases List.prefix_cons_iff.mp begins with rfl | ⟨met, rfl, rest⟩
  · cases present
  · rcases List.mem_cons.mp listed with rfl | later
    · exact List.mem_cons_self
    · rcases List.mem_cons.mp present with rfl | inside
      · exact absurd higher (top y later)
      · exact List.mem_cons_of_mem _ (leading met rest x inside y later higher)

theorem prefix_flatMap {f : α → List β} {xs : List α} {front : List β} (begins : front <+: xs.flatMap f) :
    ∃ met part, front = met.flatMap f ++ part ∧ met <+: xs ∧
      (part = [] ∨ ∃ here, met ++ [here] <+: xs ∧ part <+: f here) := by
  induction xs generalizing front with
  | nil =>
    rw [List.flatMap_nil, List.prefix_nil] at begins
    exact ⟨[], [], begins, List.nil_prefix, .inl rfl⟩
  | cons x xs ih =>
    obtain ⟨back, same⟩ := begins
    rw [List.flatMap_cons] at same
    rcases List.append_eq_append_iff.mp same with ⟨rest, here, -⟩ | ⟨more, rfl, rest⟩
    · exact ⟨[], front, rfl, List.nil_prefix, .inr ⟨x, ⟨xs, rfl⟩, ⟨rest, here.symm⟩⟩⟩
    · obtain ⟨met, part, rfl, begins, last⟩ := ih ⟨back, rest.symm⟩
      refine ⟨x :: met, part, by rw [List.flatMap_cons, List.append_assoc],
        (List.prefix_cons_inj x).mpr begins, last.imp_right ?_⟩
      rintro ⟨here, reached, within⟩
      exact ⟨here, (List.prefix_cons_inj x).mpr reached, within⟩

/-- What is over an element of `f here` comes from an element over `here`, or from `f here` itself. -/
theorem Leading.flatMap {f : α → List β} {xs : List α} (leading : Leading Over xs)
    (each : ∀ here ∈ xs, Leading Over' (f here))
    (across : ∀ here ∈ xs, ∀ other ∈ xs, ∀ x ∈ f here, ∀ y ∈ f other, Over' y x →
      Over other here ∨ y ∈ f here) :
    Leading Over' (xs.flatMap f) := by
  intro front begins x present y listed higher
  obtain ⟨met, part, rfl, begins, last⟩ := prefix_flatMap begins
  obtain ⟨other, otherListed, fromOther⟩ := List.mem_flatMap.mp listed
  rcases List.mem_append.mp present with present | present
  · obtain ⟨here, hereMet, fromHere⟩ := List.mem_flatMap.mp present
    rcases across here (begins.subset hereMet) other otherListed x fromHere y fromOther higher with above | again
    · have otherMet : other ∈ met := leading met begins here hereMet other otherListed above
      exact List.mem_append_left _ (List.mem_flatMap.mpr ⟨other, otherMet, fromOther⟩)
    · exact List.mem_append_left _ (List.mem_flatMap.mpr ⟨here, hereMet, again⟩)
  · rcases last with rfl | ⟨here, reached, within⟩
    · cases present
    have last : here ∈ met ++ [here] := List.mem_append_right _ (List.mem_singleton_self here)
    have hereListed : here ∈ xs := reached.subset last
    have inPart : y ∈ f here → y ∈ met.flatMap f ++ part := fun again =>
      List.mem_append_right _ (each here hereListed part within x present y again higher)
    rcases across here hereListed other otherListed x (within.subset present) y fromOther higher with above | again
    · rcases List.mem_append.mp (leading _ reached here last other otherListed above) with otherMet | itself
      · exact List.mem_append_left _ (List.mem_flatMap.mpr ⟨other, otherMet, fromOther⟩)
      · exact inPart (List.mem_singleton.mp itself ▸ fromOther)
    · exact inPart again

theorem Leading.map {f : α → β} {xs : List α} (leading : Leading (fun a b => Over' (f a) (f b)) xs) :
    Leading Over' (xs.map f) := by
  intro front begins x present y listed higher
  obtain ⟨met, metBegins, rfl⟩ := List.prefix_map_iff.mp begins
  obtain ⟨here, hereMet, rfl⟩ := List.mem_map.mp present
  obtain ⟨other, otherListed, rfl⟩ := List.mem_map.mp listed
  exact List.mem_map_of_mem (leading met metBegins here hereMet other otherListed higher)

theorem Leading.pairwise_eraseDups [BEq α] [LawfulBEq α] {xs : List α} (leading : Leading Over xs) :
    xs.eraseDups.Pairwise fun first later => ¬ (later = first ∨ Over later first) := by
  induction xs using List.reverseRecOn with
  | nil => exact List.Pairwise.nil
  | append_singleton xs x ih =>
    have front : xs <+: xs ++ [x] := List.prefix_append _ _
    have before := ih fun met begins here present other listed =>
      leading met (begins.trans front) here present other (front.subset listed)
    rw [List.eraseDups_append]
    by_cases again : x ∈ xs
    · simpa [List.removeAll, again] using before
    · have single : ([x].removeAll xs).eraseDups = [x] := by simp [List.removeAll, again, List.eraseDups_cons]
      rw [single]
      refine List.pairwise_append.mpr ⟨before, List.pairwise_singleton _ _, fun first met later last => ?_⟩
      cases List.mem_singleton.mp last
      have met : first ∈ xs := List.mem_eraseDups.mp met
      rintro (rfl | higher)
      · exact again met
      · exact again (leading xs front first met x (List.mem_append_right _ last) higher)

/-- What lies over an element stands at an earlier position. -/
theorem Leading.exists_earlier {xs : List α} (leading : Leading Over xs) (irreflexive : ∀ x, ¬ Over x x) {j : Nat}
    {x y : α} (here : xs[j]? = some x) (listed : y ∈ xs) (higher : Over y x) : ∃ i < j, xs[i]? = some y := by
  obtain ⟨within, rfl⟩ := List.getElem?_eq_some_iff.mp here
  have met : y ∈ xs.take (j + 1) := by
    refine leading (xs.take (j + 1)) (List.take_prefix _ _) xs[j] ?_ y listed higher
    rw [List.take_succ_eq_append_getElem within]
    exact List.mem_append_right _ (List.mem_singleton_self _)
  rw [List.take_succ_eq_append_getElem within] at met
  rcases List.mem_append.mp met with earlier | itself
  · obtain ⟨i, before, same⟩ := List.mem_take_iff_getElem.mp earlier
    exact ⟨i, by omega, List.getElem?_eq_some_iff.mpr ⟨by omega, same⟩⟩
  · exact absurd (List.mem_singleton.mp itself ▸ higher) (irreflexive _)

end Leading

/-! ### Nodes that segments lead to -/

/-- The first node lies above the second one. -/
abbrev NodeAbove (above here : Location × Json) : Prop := above.1.Above here.1

/-- The node is what the root has at the location. -/
def FoundIn (root : Json) (here : Location × Json) : Prop := root.get? here.1 = some here.2

theorem FoundIn.eq {root : Json} {here other : Location × Json} (found : FoundIn root here)
    (foundOther : FoundIn root other) (same : here.1 = other.1) : here = other := by
  rw [FoundIn, same] at found
  exact Prod.ext same (Option.some.inj (found.symm.trans foundOther))

theorem leading_descendants (origin : Location) {v : Json} (formed : v.WellFormed) :
    Leading NodeAbove (descendants origin v) := by
  have level : ∀ below ∈ nodesBelow (origin, v), below.1.length = origin.length + 1 := by
    intro below present
    obtain ⟨step, same, -⟩ := (mem_nodesBelow formed).mp present
    rw [same, List.length_append, List.length_singleton]
  have inside : ∀ node ∈ descendants origin v, ¬ node.1.Above origin := by
    intro node present above
    obtain ⟨rest, same, -⟩ := (mem_descendants formed).mp present
    have shorter := above.length_lt
    rw [same, List.length_append] at shorter
    omega
  rw [descendants_eq] at inside ⊢
  refine .cons (fun node present => inside node (List.mem_cons_of_mem _ present)) ?_
  have siblings : Leading NodeAbove (nodesBelow (origin, v)) :=
    leading_of_none fun here below other beside =>
      Location.not_above_of_length_eq ((level other beside).trans (level here below).symm)
  refine siblings.flatMap (fun here below => ?_) fun here below other beside x fromHere y fromOther above => ?_
  · have smaller := size_lt_of_mem_nodesBelow below
    obtain ⟨step, -, child⟩ := (mem_nodesBelow formed).mp below
    exact leading_descendants here.1 (formed.child child)
  · -- Both children are on the way to the lower node, and on the same level.
    obtain ⟨_, -, child⟩ := (mem_nodesBelow formed).mp below
    obtain ⟨_, -, child'⟩ := (mem_nodesBelow formed).mp beside
    obtain ⟨rest, x', -⟩ := (mem_descendants (formed.child child)).mp fromHere
    obtain ⟨rest', y', -⟩ := (mem_descendants (formed.child child')).mp fromOther
    have ways : here.1 <+: x.1 ∧ other.1 <+: x.1 :=
      ⟨⟨rest, x'.symm⟩, List.IsPrefix.trans ⟨rest', y'.symm⟩ (Location.prefix_iff.mpr (.inr above))⟩
    have sameLevel : here.1.length = other.1.length := (level here below).trans (level other beside).symm
    have same : here.1 = other.1 :=
      (List.prefix_of_prefix_length_le ways.1 ways.2 (Nat.le_of_eq sameLevel)).eq_of_length sameLevel
    exact .inr (eq_of_mem_nodesBelow formed below beside same ▸ fromOther)
termination_by v.size

theorem leading_selectAll (selectors : List Selector) {here : Location × Json} (formed : here.2.WellFormed) :
    Leading NodeAbove (selectAll selectors here) := by
  refine leading_of_none fun x fromHere y fromHere' => Location.not_above_of_length_eq ?_
  obtain ⟨step, same, -⟩ := (mem_selectAll formed).mp fromHere
  obtain ⟨step', same', -⟩ := (mem_selectAll formed).mp fromHere'
  rw [same, same', List.length_append, List.length_append, List.length_singleton, List.length_singleton]

theorem leading_follow_segment (segment : Segment) {here : Location × Json} (formed : here.2.WellFormed) :
    Leading NodeAbove (segment.follow here) := by
  have spread : ∀ starts, (∀ start ∈ starts, start.2.WellFormed) → Leading NodeAbove starts →
      Leading NodeAbove (starts.flatMap (selectAll segment.selectors)) := by
    intro starts each leading
    refine leading.flatMap (fun start listed => leading_selectAll _ (each start listed)) ?_
    intro start listed other otherListed x fromStart y fromOther above
    obtain ⟨step, same, -⟩ := (mem_selectAll (each start listed)).mp fromStart
    obtain ⟨step', same', -⟩ := (mem_selectAll (each other otherListed)).mp fromOther
    rw [NodeAbove, same, same', Location.above_concat] at above
    obtain ⟨rest, further⟩ := above
    exact .inl ⟨step', rest, by rw [← further, List.append_assoc, List.singleton_append]⟩
  rw [Segment.follow]
  split
  · refine spread _ (fun start present => ?_) (leading_descendants here.1 formed)
    obtain ⟨rest, -, found⟩ := (mem_descendants formed).mp present
    exact formed.get? found
  · refine spread _ (fun start present => List.mem_singleton.mp present ▸ formed) (leading_of_none ?_)
    intro x single y single'
    rw [List.mem_singleton.mp single, List.mem_singleton.mp single']
    exact Location.not_above_of_length_eq rfl

/-- A segment that leads from a node to one above what it leads to from a higher node leads there from the
higher node too. -/
theorem follow_across {root : Json} (formed : root.WellFormed) {segment : Segment}
    {here other x y : Location × Json} (found : FoundIn root here) (foundOther : FoundIn root other)
    (fromHere : x ∈ segment.follow here) (fromOther : y ∈ segment.follow other) (above : NodeAbove y x) :
    NodeAbove other here ∨ y ∈ segment.follow here := by
  obtain ⟨part, x', ⟨way, step, -, rfl, plain, -⟩, -⟩ := (mem_follow_segment (formed.get? found)).mp fromHere
  obtain ⟨part', y', leads, there⟩ := (mem_follow_segment (formed.get? foundOther)).mp fromOther
  have toX : here.1 <+: x.1 := ⟨_, x'.symm⟩
  have otherToX : other.1 <+: x.1 := List.IsPrefix.trans ⟨_, y'.symm⟩ (Location.prefix_iff.mpr (.inr above))
  rcases List.prefix_or_prefix_of_prefix otherToX toX with higher | lower
  · rcases Location.prefix_iff.mp higher with same | higher
    · exact .inr (foundOther.eq found same ▸ fromOther)
    · exact .inl higher
  · refine .inr ?_
    obtain ⟨more, further⟩ := lower
    obtain ⟨way', step', below', rfl, plain', found', picks⟩ := leads
    have rest : here.2.get? more = some other.2 := by
      have whole := foundOther
      rwa [FoundIn, ← further, get?_append, found, Option.bind_some] at whole
    refine (mem_follow_segment (formed.get? found)).mpr ⟨more ++ (way' ++ [step']), ?_, ?_, ?_⟩
    · rw [y', ← further, List.append_assoc]
    · refine ⟨more ++ way', step', below', (List.append_assoc ..).symm, fun single => ?_, ?_, picks⟩
      · -- From the higher node the segment goes one step only, and the other node is not above that.
        have shorter := above.length_lt
        rw [x', y', ← further, plain single, plain' single] at shorter
        simp only [List.length_append, List.length_cons, List.length_nil] at shorter
        have none : more = [] := List.eq_nil_of_length_eq_zero (by omega)
        rw [none, plain' single, List.append_nil]
      · rw [get?_append, rest]
        exact found'
    · rw [get?_append, rest]
      exact there

theorem leading_foldl_follow {root : Json} (formed : root.WellFormed) (segments : List Segment)
    {starts : List (Location × Json)} (found : ∀ start ∈ starts, FoundIn root start)
    (leading : Leading NodeAbove starts) :
    Leading NodeAbove (segments.foldl (fun nodes segment => nodes.flatMap segment.follow) starts) := by
  induction segments generalizing starts with
  | nil => exact leading
  | cons segment rest ih =>
    refine ih (fun next present => ?_) (leading.flatMap ?_ ?_)
    · obtain ⟨start, listed, followed⟩ := List.mem_flatMap.mp present
      have here := found start listed
      obtain ⟨part, same, -, there⟩ := (mem_follow_segment (formed.get? here)).mp followed
      rw [FoundIn, same, get?_append, here]
      exact there
    · exact fun start listed => leading_follow_segment segment (formed.get? (found start listed))
    · exact fun here listed other otherListed x fromHere y fromOther above =>
        follow_across formed (found here listed) (found other otherListed) fromHere fromOther above

theorem leading_follow (segments : List Segment) {root : Json} (formed : root.WellFormed) :
    Leading NodeAbove (follow segments root) := by
  have single : Leading NodeAbove [(([] : Location), root)] := by
    refine leading_of_none fun x here y there => ?_
    rw [List.mem_singleton.mp here, List.mem_singleton.mp there]
    exact Location.not_above_nil
  exact leading_foldl_follow formed segments (fun start present => List.mem_singleton.mp present ▸ rfl) single

/-- No location that a path names comes after one that is equal to it or below it. -/
theorem pairwise_locate (path : Path) {root : Json} (formed : root.WellFormed) :
    (path.locate root).Pairwise fun first later => ¬ later <+: first := by
  have leading : Leading Location.Above ((follow path.segments root).map (·.1)) :=
    .map (leading_follow path.segments formed)
  simp only [Location.prefix_iff]
  exact leading.pairwise_eraseDups

/-! ### Positions -/

/-- Of two locations that a path names, the one on the way to the other comes first. So it is each time that the
segments lead to the lower one: they have led to the higher one before. -/
theorem locations_come_from_above (path : Path) {root : Json} (formed : root.WellFormed) :
    (∀ (i j : Nat) (above here : Location), (path.locate root)[i]? = some above →
        (path.locate root)[j]? = some here → above <+: here → above ≠ here → i < j) ∧
      ∀ (j : Nat) (here : Location × Json), (follow path.segments root)[j]? = some here →
        ∀ above ∈ path.locate root, above <+: here.1 → above ≠ here.1 →
          ∃ i < j, ((follow path.segments root)[i]?).map (·.1) = some above := by
  constructor
  · intro i j above here first second onWay other
    obtain ⟨within, rfl⟩ := List.getElem?_eq_some_iff.mp first
    obtain ⟨within', rfl⟩ := List.getElem?_eq_some_iff.mp second
    rcases Nat.lt_trichotomy i j with before | rfl | after
    · exact before
    · exact absurd rfl other
    · have apart := List.pairwise_iff_getElem.mp (pairwise_locate path formed) j i within' within after
      exact absurd onWay apart
  · intro j here met above named onWay other
    obtain ⟨node, listed, rfl⟩ := List.mem_map.mp (List.mem_eraseDups.mp named)
    have higher : NodeAbove node here := (Location.prefix_iff.mp onWay).resolve_left other
    have irreflexive : ∀ node : Location × Json, ¬ NodeAbove node node :=
      fun _ => Location.not_above_of_length_eq rfl
    obtain ⟨i, before, there⟩ := (leading_follow path.segments formed).exists_earlier irreflexive met listed higher
    exact ⟨i, before, by rw [there, Option.map_some]⟩

/-- The outer list is listed first, and the inner member is met twice; both times the object around it was met. -/
theorem member_met_twice_comes_from_above :
    let root : Json := .obj [("a", .obj [("b", .obj [("a", .null)])]), ("b", .arr [.bool true])]
    let upper : Location := [.key "a", .key "b"]
    let lower : Location := [.key "a", .key "b", .key "a"]
    ∃ path, Path.parse "$..['b','a']..*" = .ok path ∧ path.locate root = [[.key "b", .index 0], upper, lower] ∧
      (follow path.segments root).map (·.1) = [[.key "b", .index 0], upper, lower, lower] ∧ 1 < 2 ∧
      ∃ i < 3, ((follow path.segments root)[i]?).map (·.1) = some upper := by
  intro root upper lower
  let path : Path := ⟨"$..['b','a']..*", [⟨true, [.name "b", .name "a"]⟩, ⟨true, [.wildcard]⟩]⟩
  have met : follow path.segments root = [([.key "b", .index 0], .bool true), (upper, .obj [("a", .null)]),
      (lower, .null), (lower, .null)] := by
    simp [path, root, upper, lower, follow, Segment.follow, descendants, walk, selectAll, Selector.choose,
      Members.get?, nodesBelow, children, indexed]
  have listed : path.locate root = [[.key "b", .index 0], upper, lower] := by
    rw [Path.locate, met]
    decide
  have formed : root.WellFormed := by
    have sorted : "a" < "b" := by decide
    simp only [root, WellFormed, WellFormedMembers, WellFormedItems, Members.Ordered, List.pairwise_cons,
      List.forall_mem_singleton, List.not_mem_nil, false_imp_iff, implies_true, List.Pairwise.nil, sorted, and_self]
  have onWay : upper <+: lower := ⟨[.key "a"], rfl⟩
  have other : upper ≠ lower := by decide
  obtain ⟨inOrder, before⟩ := locations_come_from_above path formed
  refine ⟨path, rfl, listed, by rw [met]; rfl, inOrder 1 2 upper lower ?_ ?_ onWay other, ?_⟩
  · rw [listed]; rfl
  · rw [listed]; rfl
  · refine before 3 (lower, .null) (by rw [met]; rfl) upper ?_ onWay other
    rw [listed]
    exact List.mem_cons_of_mem _ List.mem_cons_self

end Relay.Json
