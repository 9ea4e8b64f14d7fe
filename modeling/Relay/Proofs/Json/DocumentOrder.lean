import Mathlib.Data.List.Lex
import Mathlib.Data.List.Sort
import Mathlib.Data.Prod.Lex
import Mathlib.Data.String.Basic
import Mathlib.Data.Sum.Order
import Mathlib.Order.Basic
import Relay.Proofs.Json.Naming

/-!
# The order of a document

Elements of a list are in the order of their positions, members of an object in that of their names. Locations are
then in the order of words, a node before the nodes below it, and that is the order in which `preorder` meets them:
`sublist_walked_iff`.
-/

namespace Relay.Json

/-! ### Steps -/

/-- Where a step stands among its like. No node has children of both kinds. -/
def Step.place : Step → ℕ ⊕ₗ String
  | .index i => toLex (.inl i)
  | .key name => toLex (.inr name)

theorem Step.place_injective : Function.Injective Step.place := by
  intro s t same
  cases s <;> cases t <;> simp_all [place]

instance : LinearOrder Step := LinearOrder.lift' Step.place Step.place_injective

theorem Step.index_lt_index {i j : Nat} : Step.index i < Step.index j ↔ i < j :=
  Sum.Lex.inl_lt_inl_iff

theorem Step.key_lt_key {a b : String} : Step.key a < Step.key b ↔ a < b :=
  Sum.Lex.inr_lt_inr_iff

/-! ### Locations -/

namespace Location

variable {s t : Step} {x y : Location}

theorem append_lt_append (front : Location) (before : x < y) : front ++ x < front ++ y :=
  List.Lex.append_left _ before front

theorem lt_of_steps (front : Location) (before : s < t) (x y : Location) : front ++ s :: x < front ++ t :: y :=
  append_lt_append front (List.Lex.rel before)

theorem lt_below (front : Location) (step : Step) (rest : Location) : front < front ++ step :: rest := by
  have least : ([] : Location) < step :: rest := List.Lex.nil
  have before := append_lt_append front least
  rwa [List.append_nil] at before

end Location

/-! ### Children in order -/

theorem pairwise_indexed (i : Nat) (items : List Json) :
    (indexed i items).Pairwise fun child later => child.1 < later.1 := by
  induction items generalizing i with
  | nil => exact List.Pairwise.nil
  | cons v rest ih =>
    refine List.pairwise_cons.mpr ⟨fun later present => ?_, ih (i + 1)⟩
    obtain ⟨j, same, -⟩ := mem_indexed.mp present
    rw [same, Step.index_lt_index]
    omega

theorem pairwise_children {v : Json} (formed : v.WellFormed) :
    v.children.Pairwise fun child later => child.1 < later.1 := by
  cases v with
  | arr items => exact pairwise_indexed 0 items
  | obj members =>
    refine List.pairwise_map.mpr (formed.1.imp fun before => ?_)
    exact Step.key_lt_key.mpr before
  | _ => exact List.Pairwise.nil

theorem pairwise_descendants (origin : Location) {v : Json} (formed : v.WellFormed) :
    (descendants origin v).Pairwise fun here later => here.1 < later.1 := by
  rw [descendants_eq]
  refine List.pairwise_cons.mpr ⟨fun later present => ?_, List.pairwise_flatMap.mpr ⟨fun below present => ?_, ?_⟩⟩
  · obtain ⟨below, child, inside⟩ := List.mem_flatMap.mp present
    obtain ⟨step, same, found⟩ := (mem_nodesBelow formed).mp child
    obtain ⟨rest, further, -⟩ := (mem_descendants (formed.child found)).mp inside
    rw [further, same, List.append_assoc]
    exact Location.lt_below origin step rest
  · have smaller := size_lt_of_mem_nodesBelow present
    obtain ⟨step, -, found⟩ := (mem_nodesBelow formed).mp present
    exact pairwise_descendants below.1 (formed.child found)
  · -- The steps to two children decide about all that is below them.
    refine List.pairwise_map.mpr ((pairwise_children formed).imp_of_mem fun {child later} first second before => ?_)
    have formedFirst := formed.child ((mem_children formed).mp first)
    have formedSecond := formed.child ((mem_children formed).mp second)
    intro x inFirst y inSecond
    obtain ⟨rest, sameX, -⟩ := (mem_descendants formedFirst).mp inFirst
    obtain ⟨rest', sameY, -⟩ := (mem_descendants formedSecond).mp inSecond
    rw [sameX, sameY, List.append_assoc, List.append_assoc]
    exact Location.lt_of_steps origin before rest rest'
termination_by v.size

/-! ### The walk in order -/

theorem preorderItems_eq (origin : Location) (i : Nat) (items : List Json) :
    preorderItems origin i items =
      (indexed i items).flatMap fun child => preorder (origin ++ [child.1]) child.2 := by
  induction items generalizing i with
  | nil => rfl
  | cons v rest ih => rw [preorderItems, indexed, List.flatMap_cons, ih]

theorem preorderMembers_eq (origin : Location) (members : List (String × Json)) :
    preorderMembers origin members =
      members.flatMap fun member => preorder (origin ++ [.key member.1]) member.2 := by
  induction members with
  | nil => rfl
  | cons member rest ih => rw [preorderMembers, List.flatMap_cons, ih]

theorem preorder_eq (origin : Location) (v : Json) :
    preorder origin v = (origin, v) :: v.children.flatMap fun child => preorder (origin ++ [child.1]) child.2 := by
  cases v with
  | arr items => rw [preorder, preorderItems_eq, children]
  | obj members => rw [preorder, preorderMembers_eq, children, List.flatMap_map]
  | _ => simp [preorder, children]

/-- Walking with a stack meets the nodes in the order of the recursion. -/
theorem descendants_eq_preorder (origin : Location) (v : Json) : descendants origin v = preorder origin v := by
  rw [descendants_eq, preorder_eq, nodesBelow, List.flatMap_map]
  refine congrArg ((origin, v) :: ·) (List.flatMap_congr fun child present => ?_)
  have below : (origin ++ [child.1], child.2) ∈ nodesBelow (origin, v) := List.mem_map_of_mem present
  have smaller : child.2.size < v.size := size_lt_of_mem_nodesBelow below
  exact descendants_eq_preorder (origin ++ [child.1]) child.2
termination_by v.size

/-- The locations of a document in the order in which a walk from the root meets them. -/
def walked (root : Json) : List Location := (preorder [] root).map (·.1)

theorem pairwise_walked {root : Json} (formed : root.WellFormed) : root.walked.Pairwise (· < ·) := by
  rw [walked, ← descendants_eq_preorder]
  exact List.pairwise_map.mpr (pairwise_descendants [] formed)

theorem mem_walked {root : Json} (formed : root.WellFormed) {here : Location} :
    here ∈ root.walked ↔ ∃ node, root.get? here = some node := by
  rw [walked, ← descendants_eq_preorder, List.mem_map]
  constructor
  · rintro ⟨below, present, rfl⟩
    obtain ⟨rest, same, found⟩ := (mem_descendants formed).mp present
    rw [List.nil_append] at same
    exact ⟨below.2, same ▸ found⟩
  · rintro ⟨node, found⟩
    exact ⟨(here, node), (mem_descendants formed).mpr ⟨here, rfl, found⟩, rfl⟩

/-- Locations of nodes are listed as the walk meets them just when they are in the order of words. -/
theorem sublist_walked_iff {root : Json} (formed : root.WellFormed) {xs : List Location}
    (found : ∀ here ∈ xs, ∃ node, root.get? here = some node) :
    xs.Sublist root.walked ↔ xs.Pairwise (· < ·) := by
  constructor
  · intro part
    exact (pairwise_walked formed).sublist part
  · intro ordered
    have once : xs.Nodup := ordered.imp fun before => ne_of_lt before
    have part : xs.Subperm root.walked :=
      List.subperm_of_subset once fun here listed => (mem_walked formed).mpr (found here listed)
    exact List.sublist_of_subperm_of_pairwise part ordered (pairwise_walked formed)

end Relay.Json
