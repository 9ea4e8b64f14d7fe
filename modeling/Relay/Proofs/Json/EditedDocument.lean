import Relay.Json.Edit
import Relay.Proofs.Json.Legible

/-!
# Edited documents

An edit of a document that a text holds leaves a document that a text can hold, as far as its members and
numbers go. Only the merging of members can make it nest deeper.
-/

namespace Relay.Json

/-! ### Nodes and locations -/

theorem legible_get? {v node : Json} {location : Location} {depth : Nat} (legible : v.Legible depth)
    (found : v.get? location = some node) :
    location.length ≤ depth ∧ node.Legible (depth - location.length) := by
  induction location generalizing v depth with
  | nil =>
    cases found
    exact ⟨Nat.zero_le _, legible⟩
  | cons step rest ih =>
    rw [get?] at found
    obtain ⟨child, here, below⟩ := Option.bind_eq_some_iff.mp found
    obtain ⟨inner, nested, legible⟩ : ∃ inner, depth = inner + 1 ∧ child.Legible inner := by
      cases depth with
      | zero =>
        have flat := legible.shallow
        cases v <;> cases step <;> simp [child?, Json.depth] at here flat
      | succ inner =>
        refine ⟨inner, rfl, ?_⟩
        cases v <;> cases step <;> simp only [child?] at here <;> try cases here
        · exact Legible.arr.mp legible child (List.mem_of_getElem? here)
        · exact (Legible.obj.mp legible).2 _ (Members.mem_of_get? here)
    obtain ⟨within, last⟩ := ih legible below
    subst nested
    exact ⟨Nat.succ_le_succ within, by simpa using last⟩

/-- A node may be replaced by one that nests deeper; the whole then nests as much deeper. -/
theorem legible_update {v node : Json} {location : Location} {depth more : Nat} (legible : v.Legible depth)
    (within : location.length ≤ depth) (replaced : node.Legible (depth - location.length + more)) :
    (v.update (fun _ => node) location).Legible (depth + more) := by
  -- Each step of the location uses up one level of depth; what the node adds stays the same.
  induction location generalizing v depth with
  | nil => exact replaced
  | cons step rest ih =>
    obtain ⟨inner, rfl⟩ : ∃ inner, depth = inner + 1 :=
      ⟨depth - 1, by simp only [List.length_cons] at within; omega⟩
    have below : rest.length ≤ inner := Nat.le_of_succ_le_succ within
    rw [List.length_cons, Nat.add_sub_add_right] at replaced
    have step' : ∀ {child : Json}, child.Legible inner →
        (child.update (fun _ => node) rest).Legible (inner + more) := fun legible => ih legible below replaced
    have same : v.Legible (inner + 1 + more) := legible.mono (by omega)
    rw [Nat.add_right_comm] at same ⊢
    cases v <;> cases step <;> try exact same
    · rename_i items i
      have each := Legible.arr.mp legible
      refine Legible.arr.mpr fun child present => ?_
      obtain ⟨j, found⟩ := List.mem_iff_getElem?.mp present
      rw [List.getElem?_modify] at found
      obtain ⟨old, was, rfl⟩ := Option.map_eq_some_iff.mp found
      have legible := each old (List.mem_of_getElem? was)
      split
      · exact step' legible
      · exact legible.mono (Nat.le_add_right _ _)
    · rename_i members name
      obtain ⟨ordered, each⟩ := Legible.obj.mp legible
      refine Legible.obj.mpr ⟨List.pairwise_map.mpr (ordered.imp fun less => ?_), fun member present => ?_⟩
      · split <;> split <;> exact less
      · obtain ⟨old, was, rfl⟩ := List.mem_map.mp present
        have legible := each old was
        split
        · exact step' legible
        · exact legible.mono (Nat.le_add_right _ _)

/-! ### Drafts -/

/-- Where `f` answers, its answer nests at most as much deeper as said. -/
def Deepens (more : Nat) (f : Json → Option Json) : Prop :=
  ∀ depth node answer, node.Legible depth → f node = some answer → answer.Legible (depth + more)

theorem legible_change {f : Json → Option Json} {more : Nat} (deepens : Deepens more f) {draft : Draft}
    {depth : Nat} (legible : draft.document.Legible depth) (location : Location) :
    (draft.change f location).document.Legible (depth + more) := by
  unfold Draft.change
  split
  · rename_i answer answered
    obtain ⟨node, found, answered⟩ := Option.bind_eq_some_iff.mp answered
    obtain ⟨within, here⟩ := legible_get? legible found
    exact legible_update legible within (deepens _ _ _ here answered)
  · exact legible.mono (Nat.le_add_right _ _)

theorem legible_changeAll {f : Json → Option Json} {more : Nat} (deepens : Deepens more f)
    (locations : List Location) {draft : Draft} {depth : Nat} (legible : draft.document.Legible depth) :
    (draft.changeAll f locations).document.Legible (depth + locations.length * more) := by
  induction locations generalizing draft depth with
  | nil => simpa [Draft.changeAll] using legible
  | cons location rest ih =>
    have later := ih (legible_change deepens legible location)
    rw [List.length_cons, Nat.succ_mul, Nat.add_comm (rest.length * more), ← Nat.add_assoc]
    exact later

theorem deepens_replacement (expected : Option String) (value : String) :
    Deepens 0 (replacement expected value) := by
  intro depth node answer _ answered
  unfold replacement at answered
  split at answered
  · split at answered <;> cases answered
    exact .str value
  · cases answered
    exact .str value

theorem deepens_maskedNode : Deepens 0 maskedNode := by
  intro depth node answer _ answered
  unfold maskedNode at answered
  split at answered
  · cases answered
  · split at answered
    · cases answered
    · dsimp only at answered
      split at answered <;> cases answered
      exact .str _

theorem deepens_without (key : String) : Deepens 0 (without key) := by
  intro depth node answer legible answered
  unfold without at answered
  split at answered
  · split at answered <;> cases answered
    cases depth with
    | zero => exact absurd legible.shallow (Nat.not_succ_le_zero _)
    | succ depth =>
      obtain ⟨ordered, each⟩ := Legible.obj.mp legible
      exact Legible.obj.mpr ⟨ordered.sublist List.filter_sublist,
        fun member present => each member (List.mem_of_mem_filter present)⟩
  · cases answered

/-- Members that are bound one after another. -/
theorem legible_bindAll {depth : Nat} {metadata members : Members Json}
    (each : ∀ member ∈ metadata, member.2.Legible depth) (legible : Legible (depth + 1) (.obj members)) :
    Legible (depth + 1)
      (.obj (metadata.foldl (fun read member => Members.insert member.1 member.2 read) members)) := by
  induction metadata generalizing members with
  | nil => exact legible
  | cons first rest ih =>
    obtain ⟨here, later⟩ := List.forall_mem_cons.mp each
    obtain ⟨ordered, before⟩ := Legible.obj.mp legible
    refine ih later (Legible.obj.mpr ⟨ordered.insert _ _, fun member present => ?_⟩)
    rcases Members.mem_insert present with rfl | present
    · exact here
    · exact before member present

theorem deepens_merged {more : Nat} {metadata : Members Json}
    (each : ∀ member ∈ metadata, member.2.Legible more) : Deepens more (merged metadata) := by
  intro depth node answer legible answered
  unfold merged at answered
  split at answered
  · split at answered <;> cases answered
    cases depth with
    | zero => exact absurd legible.shallow (Nat.not_succ_le_zero _)
    | succ depth =>
      rw [Nat.add_right_comm]
      exact legible_bindAll (fun member present => (each member present).mono (Nat.le_add_left _ _))
        (legible.mono (by omega))
  · cases answered

theorem legible_maskPaths {paths : List String} {draft after : Draft} {depth : Nat}
    (masked : maskPaths draft paths = .ok after) (legible : draft.document.Legible depth) :
    after.document.Legible depth := by
  induction paths generalizing draft with
  | nil =>
    cases masked
    exact legible
  | cons path rest ih =>
    obtain ⟨path, -, masked⟩ := bind_ok masked
    exact ih masked (legible_changeAll deepens_maskedNode _ legible)

theorem legible_removeMembers {locations : List Location} {draft : Draft} {depth : Nat}
    (legible : draft.document.Legible depth) : (locations.foldl removeAt draft).document.Legible depth := by
  induction locations generalizing draft with
  | nil => exact legible
  | cons location rest ih =>
    refine ih ?_
    unfold removeAt
    split
    · exact legible_change (deepens_without _) legible _
    · exact legible

theorem renamedItems_eq (old new : String) (items : List Json) :
    renamedItems old new items = items.map (renamed old new) := by
  induction items with
  | nil => rfl
  | cons v rest ih => rw [renamedItems, ih, List.map_cons]

theorem renamedMembers_eq (old new : String) (members : List (String × Json)) :
    renamedMembers old new members =
      (members.filter (·.1 ≠ old)).map fun member => (member.1, renamed old new member.2) := by
  induction members with
  | nil => rfl
  | cons member rest ih =>
    by_cases gone : member.1 = old <;> simp [renamedMembers, gone, ih]

/-- The members of an object after a renaming: each is a member from before with what is inside of it renamed, or
has the value of the member that moved. -/
theorem renamed_obj (old new : String) (members : Members Json) :
    ∃ after : Members Json, renamed old new (.obj members) = .obj after ∧
      (members.Ordered → after.Ordered) ∧
      ∀ member ∈ after, (∃ was ∈ members, member.2 = renamed old new was.2) ∨ (old, member.2) ∈ members := by
  have ordered (before : members.Ordered) : Members.Ordered (renamedMembers old new members) := by
    rw [renamedMembers_eq]
    exact List.pairwise_map.mpr (before.sublist List.filter_sublist)
  have each : ∀ member ∈ renamedMembers old new members, ∃ was ∈ members, member.2 = renamed old new was.2 := by
    rw [renamedMembers_eq]
    intro member present
    obtain ⟨was, kept, rfl⟩ := List.mem_map.mp present
    exact ⟨was, List.mem_of_mem_filter kept, rfl⟩
  rw [renamed]
  cases moved : Members.get? old members with
  | none => exact ⟨_, rfl, ordered, fun member present => .inl (each member present)⟩
  | some value =>
    refine ⟨_, rfl, fun before => (ordered before).insert new value, fun member present => ?_⟩
    rcases Members.mem_insert present with rfl | rest
    · exact .inr (Members.mem_of_get? moved)
    · exact .inl (each member rest)

theorem legible_renamed (old new : String) {v : Json} {depth : Nat} (legible : v.Legible depth) :
    (renamed old new v).Legible depth := by
  induction depth generalizing v with
  | zero =>
    have flat := legible.shallow
    cases v <;> first | exact legible | exact absurd flat (Nat.not_succ_le_zero _)
  | succ depth ih =>
    cases v with
    | arr items =>
      rw [renamed, renamedItems_eq]
      refine Legible.arr.mpr fun v present => ?_
      obtain ⟨item, was, rfl⟩ := List.mem_map.mp present
      exact ih (Legible.arr.mp legible item was)
    | obj members =>
      obtain ⟨ordered, each⟩ := Legible.obj.mp legible
      obtain ⟨after, same, ordered', origin⟩ := renamed_obj old new members
      rw [same]
      refine Legible.obj.mpr ⟨ordered' ordered, fun member present => ?_⟩
      rcases origin member present with ⟨was, before, inside⟩ | moved
      · exact inside ▸ ih (each was before)
      · exact each (old, member.2) moved
    | _ => exact legible

end Relay.Json
