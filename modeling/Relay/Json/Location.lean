import Relay.Json.Basic

/-!
# Locations in a document

A location leads from the root of a document to a node, one step for each member or element.
`preorder` lists every node below a node with its location, by recursion on the document.
-/

namespace Relay.Json

inductive Step where
  | key (name : String)
  | index (i : Nat)
  deriving Repr, DecidableEq

abbrev Location := List Step

def child? : Json → Step → Option Json
  | .obj members, .key name => Members.get? name members
  | .arr items, .index i => items[i]?
  | _, _ => none

def get? : Json → Location → Option Json
  | v, [] => some v
  | v, step :: rest => (v.child? step).bind fun child => child.get? rest

/-- The document with `f` applied to the node at a location. A location that leads nowhere changes
nothing. -/
def update (f : Json → Json) : Json → Location → Json
  | v, [] => f v
  | .obj members, .key name :: rest =>
    .obj (members.map fun member =>
      if member.1 = name then (member.1, update f member.2 rest) else member)
  | .arr items, .index i :: rest => .arr (items.modify i fun item => update f item rest)
  | v, _ => v

/-- The elements from position `i` on, each with its step. -/
def indexed (i : Nat) : List Json → List (Step × Json)
  | [] => []
  | v :: rest => (.index i, v) :: indexed (i + 1) rest

/-- The children of a node with the steps that lead to them, in the order of the document. -/
def children : Json → List (Step × Json)
  | .obj members => members.map fun member => (.key member.1, member.2)
  | .arr items => indexed 0 items
  | _ => []

mutual

/-- A node and all nodes below it, each before those below it. -/
def preorder (origin : Location) : Json → List (Location × Json)
  | .arr items => (origin, .arr items) :: preorderItems origin 0 items
  | .obj members => (origin, .obj members) :: preorderMembers origin members
  | v => [(origin, v)]

def preorderItems (origin : Location) : Nat → List Json → List (Location × Json)
  | _, [] => []
  | i, v :: rest => preorder (origin ++ [.index i]) v ++ preorderItems origin (i + 1) rest

def preorderMembers (origin : Location) : List (String × Json) → List (Location × Json)
  | [] => []
  | (k, v) :: rest => preorder (origin ++ [.key k]) v ++ preorderMembers origin rest

end

/-! ### Walking with a stack -/

/-- The number of nodes below the given nodes, themselves included. -/
def stackSize : List (Location × Json) → Nat
  | [] => 0
  | (_, v) :: rest => v.size + stackSize rest

theorem stackSize_append (s t : List (Location × Json)) :
    stackSize (s ++ t) = stackSize s + stackSize t := by
  induction s with
  | nil => simp [stackSize]
  | cons p s ih => simp [stackSize, ih]; omega

/-- The nodes one step below a node, with their locations. -/
def nodesBelow (here : Location × Json) : List (Location × Json) :=
  here.2.children.map fun next => (here.1 ++ [next.1], next.2)

theorem stackSize_indexed (origin : Location) (items : List Json) :
    ∀ i, stackSize ((indexed i items).map fun next => (origin ++ [next.1], next.2)) =
      sizeItems items := by
  induction items with
  | nil => intro i; simp [indexed, stackSize, sizeItems]
  | cons v rest ih => intro i; simp [indexed, stackSize, sizeItems, ih]

theorem stackSize_members (origin : Location) (members : List (String × Json)) :
    stackSize (members.map fun member => (origin ++ [Step.key member.1], member.2)) =
      sizeMembers members := by
  induction members with
  | nil => simp [stackSize, sizeMembers]
  | cons member rest ih => simp [stackSize, sizeMembers, ih]

theorem stackSize_nodesBelow (here : Location × Json) : stackSize (nodesBelow here) + 1 = here.2.size := by
  obtain ⟨origin, v⟩ := here
  cases v with
  | arr items => rw [nodesBelow, children, stackSize_indexed, size]
  | obj members =>
    have same := stackSize_members origin members
    simpa only [nodesBelow, children, List.map_map, Function.comp_def, size, Nat.add_right_cancel_iff] using same
  | _ => simp [nodesBelow, children, stackSize, size]

theorem stackSize_nodesBelow_lt (here : Location × Json) : stackSize (nodesBelow here) < here.2.size :=
  Nat.lt_of_succ_le (Nat.le_of_eq (stackSize_nodesBelow here))

/-- Takes the nodes of a stack one at a time and puts the children of each on top. -/
def walk : List (Location × Json) → List (Location × Json)
  | [] => []
  | here :: stack => here :: walk (nodesBelow here ++ stack)
termination_by stack => stackSize stack
decreasing_by
  obtain ⟨origin, v⟩ := here
  have smaller : stackSize (nodesBelow (origin, v)) < v.size := stackSize_nodesBelow_lt (origin, v)
  simp only [stackSize_append, stackSize]
  omega

/-- A node and all nodes below it, with a stack in place of recursion. -/
def descendants (origin : Location) (v : Json) : List (Location × Json) := walk [(origin, v)]

end Relay.Json
