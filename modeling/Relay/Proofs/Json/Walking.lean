import Mathlib.Logic.Function.Iterate
import Relay.Proofs.Json.DocumentOrder

/-!
# The rounds of a walk

A walk with a stack goes in rounds. Each of them takes the node on top and puts the children of that node in its
place, the last of them first, which leaves one node less to be taken. The walk is over after as many rounds as there
are nodes, and has then taken them in the order of the recursion: `walk_takes_preorder`.
-/

namespace Relay.Json

/-! ### The nodes below a stack -/

theorem stackSize_reverse (stack : List (Location × Json)) : stackSize stack.reverse = stackSize stack := by
  induction stack with
  | nil => rfl
  | cons here rest ih =>
    rw [List.reverse_cons, stackSize_append, ih, stackSize, stackSize, stackSize]
    omega

theorem stackSize_eq_zero_iff {stack : List (Location × Json)} : stackSize stack = 0 ↔ stack = [] := by
  cases stack with
  | nil => exact iff_of_true rfl rfl
  | cons here rest =>
    have one := stackSize_nodesBelow here
    refine iff_of_false (fun none => ?_) (List.cons_ne_nil here rest)
    rw [stackSize] at none
    omega

/-! ### Rounds -/

/-- A walk under way: its stack, with the top at the end, and the nodes that were taken. -/
structure Walk where
  stack : List (Location × Json)
  taken : List (Location × Json)

namespace Walk

def start (origin : Location) (v : Json) : Walk := ⟨[(origin, v)], []⟩

/-- Takes the node on top, and puts its children on the stack from the last to the first. -/
def round (w : Walk) : Walk :=
  match w.stack.getLast? with
  | none => w
  | some here => ⟨w.stack.dropLast ++ (nodesBelow here).reverse, w.taken ++ [here]⟩

theorem round_concat (front taken : List (Location × Json)) (here : Location × Json) :
    round ⟨front ++ [here], taken⟩ = ⟨front ++ (nodesBelow here).reverse, taken ++ [here]⟩ := by
  simp only [round, List.getLast?_concat, List.dropLast_concat]

/-- One node less is left; an empty stack stays empty. -/
theorem stackSize_round (w : Walk) : stackSize w.round.stack = stackSize w.stack - 1 := by
  obtain ⟨stack, taken⟩ := w
  rcases List.eq_nil_or_concat' stack with rfl | ⟨front, here, rfl⟩
  · rfl
  · have below := stackSize_nodesBelow here
    rw [round_concat, stackSize_append, stackSize_append, stackSize_reverse, stackSize, stackSize]
    omega

/-- What was taken and what is still to come stay the same list. -/
theorem round_keeps (w : Walk) : w.round.taken ++ walk w.round.stack.reverse = w.taken ++ walk w.stack.reverse := by
  obtain ⟨stack, taken⟩ := w
  rcases List.eq_nil_or_concat' stack with rfl | ⟨front, here, rfl⟩
  · rfl
  · simp only [round_concat, List.reverse_append, List.reverse_reverse, List.reverse_singleton, List.singleton_append]
    rw [walk, List.append_assoc, List.singleton_append]

theorem stackSize_rounds (n : Nat) (w : Walk) : stackSize (round^[n] w).stack = stackSize w.stack - n := by
  induction n generalizing w with
  | zero => rfl
  | succ n ih =>
    rw [Function.iterate_succ_apply, ih, stackSize_round]
    omega

theorem rounds_keep (n : Nat) (w : Walk) :
    (round^[n] w).taken ++ walk (round^[n] w).stack.reverse = w.taken ++ walk w.stack.reverse := by
  induction n generalizing w with
  | zero => rfl
  | succ n ih => rw [Function.iterate_succ_apply, ih, round_keeps]

/-- The stack is empty from the round on that takes the last node below it. -/
theorem stack_rounds_eq_nil_iff {n : Nat} {w : Walk} : (round^[n] w).stack = [] ↔ stackSize w.stack ≤ n := by
  rw [← stackSize_eq_zero_iff, stackSize_rounds, Nat.sub_eq_zero_iff_le]

/-- A walk ends with what its stack leads to behind what it had taken. -/
theorem rounds_to_end (w : Walk) : round^[stackSize w.stack] w = ⟨[], w.taken ++ walk w.stack.reverse⟩ := by
  have empty : (round^[stackSize w.stack] w).stack = [] := stack_rounds_eq_nil_iff.mpr (Nat.le_refl _)
  have kept := rounds_keep (stackSize w.stack) w
  rw [empty, List.reverse_nil, walk, List.append_nil] at kept
  rw [← empty, ← kept]

end Walk

/-! ### The whole walk -/

/-- From a single node the walk is over after one round for each node below it, no sooner, and has taken the node and
then what the recursion lists for each of its children. In a well-formed document the children come in the order of
their names or positions, and each node is taken once, with the way that leads to it from the start. -/
theorem walk_takes_preorder (origin : Location) (v : Json) :
    Walk.round^[v.size] (.start origin v) = ⟨[], descendants origin v⟩ ∧
      (∀ rounds < v.size, (Walk.round^[rounds] (.start origin v)).stack ≠ []) ∧
      descendants origin v = preorder origin v ∧
      preorder origin v = (origin, v) :: v.children.flatMap (fun child => preorder (origin ++ [child.1]) child.2) ∧
      (v.WellFormed →
        (v.children.Pairwise fun child later => child.1 < later.1) ∧
        ((descendants origin v).map (·.1)).Nodup ∧
        ∀ here node, (here, node) ∈ descendants origin v ↔
          ∃ rest, here = origin ++ rest ∧ v.get? rest = some node) := by
  have total : stackSize (Walk.start origin v).stack = v.size := Nat.add_zero _
  refine ⟨?_, fun rounds few empty => ?_, descendants_eq_preorder origin v, preorder_eq origin v, fun formed => ?_⟩
  · have ended := (Walk.start origin v).rounds_to_end
    rwa [total] at ended
  · rw [Walk.stack_rounds_eq_nil_iff, total] at empty
    omega
  · refine ⟨pairwise_children formed, ?_, fun here node => mem_descendants formed⟩
    exact List.pairwise_map.mpr ((pairwise_descendants origin formed).imp ne_of_lt)

/-- The members of the inner object are taken before the outer member that stands behind the list. -/
theorem nested_list_is_walked_in_six_rounds :
    let inner : Json := .obj [("b", .null)]
    let items : Json := .arr [.bool true, inner]
    let v : Json := .obj [("a", items), ("c", .str "x")]
    let origin : Location := [.key "top", .index 3]
    v.WellFormed ∧
      Walk.round^[6] (.start origin v) =
        ⟨[], [(origin, v), (origin ++ [.key "a"], items), (origin ++ [.key "a", .index 0], .bool true),
          (origin ++ [.key "a", .index 1], inner), (origin ++ [.key "a", .index 1, .key "b"], .null),
          (origin ++ [.key "c"], .str "x")]⟩ ∧
      (Walk.round^[5] (.start origin v)).stack ≠ [] ∧ ((descendants origin v).map (·.1)).Nodup := by
  intro inner items v origin
  have formed : v.WellFormed := by
    have sorted : "a" < "c" := by decide
    simp only [v, items, inner, WellFormed, WellFormedMembers, WellFormedItems, Members.Ordered, List.pairwise_cons,
      List.forall_mem_singleton, List.not_mem_nil, false_imp_iff, implies_true, List.Pairwise.nil, sorted, and_self]
  obtain ⟨ended, under, same, -, each⟩ := walk_takes_preorder origin v
  refine ⟨formed, ended.trans ?_, under 5 (by decide), (each formed).2.1⟩
  rw [same]
  rfl

end Relay.Json
