import Relay.Json.Members
import Relay.Json.Number

/-!
# Documents

A JSON value. An object keeps its members in the order of their names.
-/

namespace Relay

inductive Json where
  | null
  | bool (b : Bool)
  | num (n : Json.Number)
  | str (s : String)
  | arr (items : List Json)
  | obj (members : List (String × Json))
  deriving Repr, Inhabited

namespace Json

mutual

def eq : Json → Json → Bool
  | .null, .null => true
  | .bool a, .bool b => a == b
  | .num a, .num b => a == b
  | .str a, .str b => a == b
  | .arr a, .arr b => eqItems a b
  | .obj a, .obj b => eqMembers a b
  | _, _ => false

def eqItems : List Json → List Json → Bool
  | [], [] => true
  | v :: rest, w :: rest' => eq v w && eqItems rest rest'
  | _, _ => false

def eqMembers : List (String × Json) → List (String × Json) → Bool
  | [], [] => true
  | (k, v) :: rest, (l, w) :: rest' => k == l && eq v w && eqMembers rest rest'
  | _, _ => false

end

instance : BEq Json := ⟨eq⟩

mutual

theorem eq_iff (v w : Json) : eq v w = true ↔ v = w := by
  match v with
  | .null | .bool _ | .num _ | .str _ => cases w <;> simp [eq]
  | .arr items => cases w <;> simp [eq, eqItems_iff items]
  | .obj members => cases w <;> simp [eq, eqMembers_iff members]

theorem eqItems_iff (xs ys : List Json) : eqItems xs ys = true ↔ xs = ys := by
  match xs with
  | [] => cases ys <;> simp [eqItems]
  | v :: rest => cases ys <;> simp [eqItems, eq_iff v, eqItems_iff rest]

theorem eqMembers_iff (xs ys : List (String × Json)) : eqMembers xs ys = true ↔ xs = ys := by
  match xs with
  | [] => cases ys <;> simp [eqMembers]
  | (k, v) :: rest => cases ys <;> simp [eqMembers, Prod.ext_iff, eq_iff v, eqMembers_iff rest]

end

instance : LawfulBEq Json where
  eq_of_beq {v w} same := (eq_iff v w).mp same
  rfl {v} := (eq_iff v v).mpr rfl

mutual

def size : Json → Nat
  | .arr items => sizeItems items + 1
  | .obj members => sizeMembers members + 1
  | _ => 1

def sizeItems : List Json → Nat
  | [] => 0
  | v :: rest => size v + sizeItems rest

def sizeMembers : List (String × Json) → Nat
  | [] => 0
  | (_, v) :: rest => size v + sizeMembers rest

end

mutual

def depth : Json → Nat
  | .arr items => depthItems items + 1
  | .obj members => depthMembers members + 1
  | _ => 0

def depthItems : List Json → Nat
  | [] => 0
  | v :: rest => max (depth v) (depthItems rest)

def depthMembers : List (String × Json) → Nat
  | [] => 0
  | (_, v) :: rest => max (depth v) (depthMembers rest)

end

mutual

/-- Every object, at any depth, holds its members in order and each name once. -/
def WellFormed : Json → Prop
  | .arr items => WellFormedItems items
  | .obj members => Members.Ordered members ∧ WellFormedMembers members
  | _ => True

def WellFormedItems : List Json → Prop
  | [] => True
  | v :: rest => WellFormed v ∧ WellFormedItems rest

def WellFormedMembers : List (String × Json) → Prop
  | [] => True
  | (_, v) :: rest => WellFormed v ∧ WellFormedMembers rest

end

def whole (n : Int) : Json := .num (.whole n)

end Json
end Relay
