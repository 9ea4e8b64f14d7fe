import Relay.Proofs.Json.Yields

/-!
# Documents that texts hold

What is read from a text is legible: it nests no deeper than the reader goes, its objects are in order, and
its numbers can be written. The text of a legible document is read as that document with its numbers read again.
-/

namespace Relay.Json

/-! ### Members in order -/

namespace Members

variable {α : Type}

theorem mem_insert {key : String} {value : α} {members : Members α} {member : String × α}
    (present : member ∈ insert key value members) : member = (key, value) ∨ member ∈ members := by
  induction members with
  | nil => exact .inl (List.mem_singleton.mp present)
  | cons first rest ih =>
    obtain ⟨name, old⟩ := first
    rw [insert] at present
    split at present
    · rcases List.mem_cons.mp present with same | later
      · exact .inl same
      · exact .inr (List.mem_cons_of_mem _ later)
    · split at present
      · exact List.mem_cons.mp present
      · rcases List.mem_cons.mp present with same | later
        · exact .inr (same ▸ List.mem_cons_self)
        · exact (ih later).imp_right (List.mem_cons_of_mem _)

theorem Ordered.insert {members : Members α} (ordered : Ordered members) (key : String) (value : α) :
    Ordered (Members.insert key value members) := by
  induction members with
  | nil => exact List.pairwise_singleton _ _
  | cons first rest ih =>
    obtain ⟨name, old⟩ := first
    obtain ⟨before, inner⟩ := List.pairwise_cons.mp ordered
    rw [Members.insert]
    split
    · rename_i same
      exact List.pairwise_cons.mpr ⟨fun later present => same ▸ before later present, inner⟩
    · rename_i other
      split
      · rename_i first
        refine List.pairwise_cons.mpr ⟨fun later present => ?_, ordered⟩
        rcases List.mem_cons.mp present with rfl | present
        · exact first
        · exact String.lt_trans first (before later present)
      · rename_i reversed
        have after : name < key := by
          rcases Std.lt_trichotomy name key with less | same | greater
          · exact less
          · exact absurd same.symm other
          · exact absurd greater reversed
        refine List.pairwise_cons.mpr ⟨fun later present => ?_, ih inner⟩
        rcases mem_insert present with rfl | present
        · exact after
        · exact before later present

theorem Ordered.sublist {members fewer : Members α} (ordered : Ordered members)
    (kept : fewer.Sublist members) : Ordered fewer :=
  List.Pairwise.sublist kept ordered

theorem mem_of_get? {key : String} {value : α} {members : Members α}
    (found : get? key members = some value) : (key, value) ∈ members := by
  induction members with
  | nil => cases found
  | cons first rest ih =>
    obtain ⟨name, old⟩ := first
    rw [get?] at found
    split at found
    · rename_i same
      cases found
      exact same ▸ List.mem_cons_self
    · exact List.mem_cons_of_mem _ (ih found)

theorem get?_of_mem {key : String} {value : α} {members : Members α} (ordered : Ordered members)
    (present : (key, value) ∈ members) : get? key members = some value := by
  induction members with
  | nil => cases present
  | cons first rest ih =>
    obtain ⟨name, old⟩ := first
    obtain ⟨before, inner⟩ := List.pairwise_cons.mp ordered
    rw [get?]
    rcases List.mem_cons.mp present with same | later
    · cases same
      exact if_pos rfl
    · have less : name < key := before (key, value) later
      have other : name ≠ key := fun same => String.lt_irrefl key (same ▸ less)
      rw [if_neg other, ih inner later]

end Members

/-! ### Legible documents -/

mutual

def NumbersValid : Json → Prop
  | .num n => n.Valid
  | .arr items => NumbersValidItems items
  | .obj members => NumbersValidMembers members
  | _ => True

def NumbersValidItems : List Json → Prop
  | [] => True
  | v :: rest => NumbersValid v ∧ NumbersValidItems rest

def NumbersValidMembers : List (String × Json) → Prop
  | [] => True
  | (_, v) :: rest => NumbersValid v ∧ NumbersValidMembers rest

end

mutual

theorem NumbersValid.readable {v : Json} (valid : v.NumbersValid) : v.NumbersReadable := by
  match v with
  | .null | .bool _ | .str _ => exact trivial
  | .num _ => exact Number.Valid.readsAs valid
  | .arr _ => exact NumbersValidItems.readable valid
  | .obj _ => exact NumbersValidMembers.readable valid

theorem NumbersValidItems.readable {items : List Json} (valid : NumbersValidItems items) :
    NumbersReadableItems items := by
  match items with
  | [] => exact trivial
  | _ :: _ => exact ⟨valid.1.readable, NumbersValidItems.readable valid.2⟩

theorem NumbersValidMembers.readable {members : List (String × Json)}
    (valid : NumbersValidMembers members) : NumbersReadableMembers members := by
  match members with
  | [] => exact trivial
  | _ :: _ => exact ⟨valid.1.readable, NumbersValidMembers.readable valid.2⟩

end

/-- A document that a text can hold, in which lists and objects nest at most `depth` deep. -/
structure Legible (depth : Nat) (v : Json) : Prop where
  formed : v.WellFormed
  numbers : v.NumbersValid
  shallow : v.depth ≤ depth

theorem wellFormedItems_iff (items : List Json) : WellFormedItems items ↔ ∀ v ∈ items, v.WellFormed := by
  induction items with
  | nil => simp [WellFormedItems]
  | cons v items ih => simp [WellFormedItems, ih]

theorem wellFormedMembers_iff (members : List (String × Json)) :
    WellFormedMembers members ↔ ∀ member ∈ members, member.2.WellFormed := by
  induction members with
  | nil => simp [WellFormedMembers]
  | cons member members ih => rw [WellFormedMembers, ih, List.forall_mem_cons]

theorem numbersValidItems_iff (items : List Json) :
    NumbersValidItems items ↔ ∀ v ∈ items, v.NumbersValid := by
  induction items with
  | nil => simp [NumbersValidItems]
  | cons v items ih => simp [NumbersValidItems, ih]

theorem numbersValidMembers_iff (members : List (String × Json)) :
    NumbersValidMembers members ↔ ∀ member ∈ members, member.2.NumbersValid := by
  induction members with
  | nil => simp [NumbersValidMembers]
  | cons member members ih => rw [NumbersValidMembers, ih, List.forall_mem_cons]

theorem depthItems_le_iff (items : List Json) (depth : Nat) :
    depthItems items ≤ depth ↔ ∀ v ∈ items, v.depth ≤ depth := by
  induction items with
  | nil => simp [depthItems]
  | cons v items ih => rw [depthItems, Nat.max_le, ih, List.forall_mem_cons]

theorem depthMembers_le_iff (members : List (String × Json)) (depth : Nat) :
    depthMembers members ≤ depth ↔ ∀ member ∈ members, member.2.depth ≤ depth := by
  induction members with
  | nil => simp [depthMembers]
  | cons member members ih => rw [depthMembers, Nat.max_le, ih, List.forall_mem_cons]

namespace Legible

variable {depth : Nat}

theorem null : Legible depth .null := ⟨trivial, trivial, Nat.zero_le _⟩

theorem bool (b : Bool) : Legible depth (.bool b) := ⟨trivial, trivial, Nat.zero_le _⟩

theorem str (s : String) : Legible depth (.str s) := ⟨trivial, trivial, Nat.zero_le _⟩

theorem num {n : Number} (valid : n.Valid) : Legible depth (.num n) := ⟨trivial, valid, Nat.zero_le _⟩

theorem arr {items : List Json} :
    Legible (depth + 1) (.arr items) ↔ ∀ v ∈ items, v.Legible depth := by
  constructor
  · intro legible v present
    exact ⟨(wellFormedItems_iff items).mp legible.formed v present,
      (numbersValidItems_iff items).mp legible.numbers v present,
      (depthItems_le_iff items depth).mp (Nat.le_of_succ_le_succ legible.shallow) v present⟩
  · intro each
    exact ⟨(wellFormedItems_iff items).mpr fun v present => (each v present).formed,
      (numbersValidItems_iff items).mpr fun v present => (each v present).numbers,
      Nat.succ_le_succ ((depthItems_le_iff items depth).mpr fun v present => (each v present).shallow)⟩

theorem obj {members : Members Json} : Legible (depth + 1) (.obj members) ↔
    Members.Ordered members ∧ ∀ member ∈ members, member.2.Legible depth := by
  constructor
  · intro legible
    refine ⟨legible.formed.1, fun member present => ⟨?_, ?_, ?_⟩⟩
    · exact (wellFormedMembers_iff members).mp legible.formed.2 member present
    · exact (numbersValidMembers_iff members).mp legible.numbers member present
    · exact (depthMembers_le_iff members depth).mp (Nat.le_of_succ_le_succ legible.shallow) member present
  · intro ⟨ordered, each⟩
    refine ⟨⟨ordered, ?_⟩, ?_, Nat.succ_le_succ ?_⟩
    · exact (wellFormedMembers_iff members).mpr fun member present => (each member present).formed
    · exact (numbersValidMembers_iff members).mpr fun member present => (each member present).numbers
    · exact (depthMembers_le_iff members depth).mpr fun member present => (each member present).shallow

theorem mono {deeper : Nat} (within : depth ≤ deeper) {v : Json} (legible : v.Legible depth) :
    v.Legible deeper :=
  ⟨legible.formed, legible.numbers, Nat.le_trans legible.shallow within⟩

/-- The compact text of a legible document is read as that document, with its numbers read again. -/
theorem parse_render {v : Json} (legible : v.Legible maxDepth) : parse v.render = .ok v.reread :=
  Json.parse_render v legible.formed legible.numbers.readable legible.shallow

/-- It is read as that very document if the numbers are read back. -/
theorem parse_render_self {v : Json} (legible : v.Legible maxDepth) (numbers : v.NumbersReadBack) :
    parse v.render = .ok v :=
  legible.parse_render.trans (congrArg Except.ok numbers)

end Legible

/-! ### Documents that are read -/

theorem yields_bindMember {depth : Nat} (inner : Yields (value depth) (Legible depth))
    (read : Members Json) (name : String) (before : Legible (depth + 1) (.obj read)) :
    Yields (bindMember (value depth) read name) fun read => Legible (depth + 1) (.obj read) := by
  intro ts x rest valid found
  unfold bindMember at found
  obtain ⟨ts', passed, found⟩ := bind_ok found
  obtain ⟨⟨v, left⟩, here, found⟩ := bind_ok found
  cases found
  obtain ⟨legible, left⟩ := inner _ _ _ (valid.suffix (colon_suffix passed)) here
  obtain ⟨ordered, each⟩ := Legible.obj.mp before
  refine ⟨Legible.obj.mpr ⟨ordered.insert name v, fun member present => ?_⟩, left⟩
  rcases Members.mem_insert present with rfl | present
  · exact legible
  · exact each member present

/-- A document that is read is legible. -/
theorem yields_value (depth : Nat) : Yields (value depth) (Legible depth) := by
  induction depth using Nat.strongRecOn with
  | ind depth ih =>
    intro ts v rest valid read
    unfold value at read
    split at read
    case h_2 =>
      cases read
      exact ⟨.null, valid.suffix (List.suffix_cons _ _)⟩
    case h_3 b _ =>
      cases read
      exact ⟨.bool b, valid.suffix (List.suffix_cons _ _)⟩
    case h_4 =>
      obtain ⟨n, rfl, same⟩ := map_ok read
      cases same
      exact ⟨.num (valid _ List.mem_cons_self), valid.suffix (List.suffix_cons _ _)⟩
    case h_5 =>
      obtain ⟨s, rfl, same⟩ := map_ok read
      cases same
      exact ⟨.str s, valid.suffix (List.suffix_cons _ _)⟩
    case h_10 depth inner =>
      obtain ⟨⟨xs, left⟩, found, same⟩ := map_ok read
      cases same
      have each := (ih depth (Nat.lt_succ_self depth)).items
      obtain ⟨legible, left⟩ := each _ _ _ (valid.suffix (List.suffix_cons _ _)) found
      exact ⟨Legible.arr.mpr legible, left⟩
    case h_11 depth inner =>
      obtain ⟨⟨members, left⟩, found, same⟩ := map_ok read
      cases same
      have nothing : Legible (depth + 1) (.obj []) :=
        Legible.obj.mpr ⟨List.Pairwise.nil, by simp⟩
      have each := Yields.members (yields_bindMember (ih depth (Nat.lt_succ_self depth))) nothing
      exact each _ _ _ (valid.suffix (List.suffix_cons _ _)) found
    all_goals cases read

theorem legible_of_parse {s : String} {v : Json} (read : parse s = .ok v) : v.Legible maxDepth := by
  unfold parse at read
  obtain ⟨⟨v', rest⟩, found, done⟩ := bind_ok read
  have legible := (yields_value maxDepth _ _ _ (validTokens_tokens s) found).1
  cases rest with
  | nil =>
    cases done
    exact legible
  | cons t rest => cases done

end Relay.Json
