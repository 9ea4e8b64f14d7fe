import Relay.Proofs.Json.EditedText
import Relay.Proofs.Json.Naming

/-!
# Members renamed

A renaming moves the outermost members that have the old name. `child?_renamed` says what it makes of one level of a
document; from it follows where every node goes (`get?_renamed`, `get?_renamed_moved`) and where every node of the
outcome comes from (`exists_origin`).
-/

namespace Relay.Json

/-! ### Names that are absent -/

theorem get?_singleton (v : Json) (step : Step) : v.get? [step] = v.child? step :=
  Option.bind_fun_some _

theorem exists_child?_of_isSome {v : Json} {step : Step} {rest : Location}
    (present : (v.get? (step :: rest)).isSome) :
    ∃ child, v.child? step = some child ∧ (child.get? rest).isSome := by
  obtain ⟨node, found⟩ := Option.isSome_iff_exists.mp present
  obtain ⟨child, here, below⟩ := Option.bind_eq_some_iff.mp found
  exact ⟨child, here, Option.isSome_of_mem below⟩

/-- No member of the document, at any depth, has the name. -/
def Lacks (v : Json) (name : String) : Prop := ∀ front, v.get? (front ++ [.key name]) = none

theorem Lacks.child?_key {v : Json} {name : String} (lacks : v.Lacks name) : v.child? (.key name) = none :=
  (get?_singleton v _).symm.trans (lacks [])

theorem Lacks.child {v child : Json} {name : String} (lacks : v.Lacks name) {step : Step}
    (found : v.child? step = some child) : child.Lacks name := by
  intro front
  have deeper := lacks (step :: front)
  rwa [List.cons_append, get?, found] at deeper

theorem exists_child?_of_item {items : List Json} {item : Json} (present : item ∈ items) :
    ∃ step, (Json.arr items).child? step = some item := by
  obtain ⟨i, found⟩ := List.mem_iff_getElem?.mp present
  exact ⟨.index i, found⟩

theorem renameCountItems_eq_zero_iff {old : String} {items : List Json} :
    renameCountItems old items = 0 ↔ ∀ item ∈ items, renameCount old item = 0 := by
  induction items with
  | nil => simp [renameCountItems]
  | cons item items ih => rw [renameCountItems, Nat.add_eq_zero_iff, ih, List.forall_mem_cons]

theorem renameCountMembers_eq_zero_iff {old : String} {members : List (String × Json)} :
    renameCountMembers old members = 0 ↔
      ∀ member ∈ members, member.1 ≠ old ∧ renameCount old member.2 = 0 := by
  induction members with
  | nil => simp [renameCountMembers]
  | cons member members ih =>
    rw [renameCountMembers, Nat.add_eq_zero_iff, ih, List.forall_mem_cons]
    by_cases same : member.1 = old <;> simp [same]

theorem renameCount_of_lacks {v : Json} (formed : v.WellFormed) {old : String} (lacks : v.Lacks old) :
    renameCount old v = 0 := by
  have below : ∀ step child, v.child? step = some child → renameCount old child = 0 := by
    intro step child found
    have smaller := size_lt_of_child? formed found
    exact renameCount_of_lacks (formed.child found) (lacks.child found)
  cases v with
  | arr items =>
    refine renameCountItems_eq_zero_iff.mpr fun item present => ?_
    obtain ⟨step, found⟩ := exists_child?_of_item present
    exact below step item found
  | obj members =>
    refine renameCountMembers_eq_zero_iff.mpr fun member present => ?_
    have found : Members.get? member.1 members = some member.2 := Members.get?_of_mem formed.1 present
    refine ⟨fun same => ?_, below (.key member.1) member.2 found⟩
    have absent : Members.get? old members = none := lacks.child?_key
    rw [← same, found] at absent
    cases absent
  | _ => rfl
termination_by v.size

theorem renameCount_child {old : String} {v child : Json} (none : renameCount old v = 0) {step : Step}
    (found : v.child? step = some child) : renameCount old child = 0 ∧ step ≠ .key old := by
  cases v <;> cases step <;> simp only [child?, reduceCtorEq] at found
  · exact ⟨renameCountItems_eq_zero_iff.mp none child (List.mem_of_getElem? found), Step.noConfusion⟩
  · obtain ⟨other, below⟩ := renameCountMembers_eq_zero_iff.mp none _ (Members.mem_of_get? found)
    exact ⟨below, fun same => other (Step.key.inj same)⟩

theorem lacks_of_renameCount {old : String} {v : Json} (none : renameCount old v = 0) : v.Lacks old := by
  intro front
  refine Option.not_isSome_iff_eq_none.mp fun present => ?_
  induction front generalizing v with
  | nil =>
    obtain ⟨child, found, -⟩ := exists_child?_of_isSome present
    exact (renameCount_child none found).2 rfl
  | cons step front ih =>
    obtain ⟨child, found, below⟩ := exists_child?_of_isSome present
    exact ih (renameCount_child none found).1 below

/-! ### One level -/

theorem get?_renamedMembers (old new key : String) (members : List (String × Json)) :
    Members.get? key (renamedMembers old new members) =
      if key = old then none else (Members.get? key members).map (renamed old new) := by
  induction members with
  | nil => simp [renamedMembers]
  | cons member rest ih =>
    obtain ⟨name, value⟩ := member
    rw [renamedMembers]
    by_cases moved : name = old
    · subst moved
      rw [if_pos rfl, ih, Members.get?]
      by_cases same : key = name
      · rw [if_pos same, if_pos same]
      · rw [if_neg same, if_neg same, if_neg (Ne.symm same)]
    · rw [if_neg moved, Members.get?, Members.get?]
      by_cases here : name = key
      · subst here
        rw [if_pos rfl, if_pos rfl, if_neg moved]
        rfl
      · rw [if_neg here, if_neg here, ih]

/-- The member of the new name is the one that had the old name, if there was one. -/
theorem child?_renamed {old new : String} (other : old ≠ new) (v : Json) (step : Step) :
    (renamed old new v).child? step =
      if step = .key old then none
      else (if step = .key new then v.child? (.key old) else none).or ((v.child? step).map (renamed old new)) := by
  cases v with
  | arr items =>
    cases step with
    | index i => simp [renamed, renamedItems_eq, child?]
    | key name => simp [renamed, child?]
  | obj members =>
    cases step with
    | index i =>
      rw [renamed]
      cases Members.get? old members <;> simp [child?]
    | key name =>
      rw [renamed]
      cases moved : Members.get? old members with
      | none => simp [child?, get?_renamedMembers, moved]
      | some value =>
        simp only [child?, Members.get?_insert, get?_renamedMembers, moved, Step.key.injEq]
        by_cases taken : name = new
        · rw [if_pos taken.symm, if_neg (taken ▸ other.symm), if_pos taken, Option.some_or]
        · rw [if_neg (Ne.symm taken), if_neg taken, Option.none_or]
  | _ => cases step <;> simp [renamed, child?]

/-! ### Locations -/

/-- The step leads to a child that stays: to no member of the old name, and to one of the new name only where the
object has no member of the old name. -/
structure KeptStep (old new : String) (v : Json) (step : Step) : Prop where
  unmoved : step ≠ .key old
  unreplaced : step = .key new → v.child? (.key old) = none

/-- The location leads through no member of the old name, and through none of the new name where the object also
has the old one. -/
structure Kept (old new : String) (v : Json) (here : Location) : Prop where
  unmoved : .key old ∉ here
  unreplaced : ∀ front, front ++ [.key new] <+: here → v.get? (front ++ [.key old]) = none

theorem kept_nil {old new : String} {v : Json} : Kept old new v [] :=
  ⟨List.not_mem_nil, fun front reaches => by simp at reaches⟩

section Locations

variable {old new : String} {v child : Json} {step : Step} {here front rest : Location}

theorem keptStep_or (old new : String) (v : Json) (step : Step) :
    KeptStep old new v step ∨ step = .key old ∨ step = .key new ∧ (v.child? (.key old)).isSome := by
  by_cases moved : step = .key old
  · exact .inr (.inl moved)
  · by_cases replaced : step = .key new ∧ (v.child? (.key old)).isSome
    · exact .inr (.inr replaced)
    · exact .inl ⟨moved, by simpa using replaced⟩

theorem KeptStep.child?_renamed (first : KeptStep old new v step) (other : old ≠ new) :
    (renamed old new v).child? step = (v.child? step).map (renamed old new) := by
  rw [Json.child?_renamed other, if_neg first.unmoved]
  split
  · rename_i same
    rw [first.unreplaced same, Option.none_or]
  · exact Option.none_or

theorem Kept.first (kept : Kept old new v (step :: rest)) : KeptStep old new v step := by
  refine ⟨fun same => kept.unmoved (same ▸ List.mem_cons_self), fun same => ?_⟩
  have reaches : [] ++ [.key new] <+: step :: rest := ⟨rest, same ▸ rfl⟩
  exact (get?_singleton v _).symm.trans (kept.unreplaced [] reaches)

theorem Kept.tail (kept : Kept old new v (step :: rest)) (found : v.child? step = some child) :
    Kept old new child rest := by
  refine ⟨fun moved => kept.unmoved (List.mem_cons_of_mem _ moved), fun front reaches => ?_⟩
  have absent := kept.unreplaced (step :: front) (List.cons_prefix_cons.mpr ⟨rfl, reaches⟩)
  rwa [List.cons_append, get?, found] at absent

theorem Kept.cons (first : KeptStep old new v step) (found : v.child? step = some child)
    (kept : Kept old new child rest) : Kept old new v (step :: rest) := by
  refine ⟨fun moved => ?_, fun front reaches => ?_⟩
  · rcases List.mem_cons.mp moved with same | later
    · exact first.unmoved same.symm
    · exact kept.unmoved later
  · cases front with
    | nil =>
      have same := (List.cons_prefix_cons.mp reaches).1
      exact (get?_singleton v _).trans (first.unreplaced same.symm)
    | cons top front =>
      obtain ⟨rfl, inside⟩ := List.cons_prefix_cons.mp reaches
      rw [List.cons_append, get?, found]
      exact kept.unreplaced front inside

theorem get?_renamed (other : old ≠ new) (kept : Kept old new v here) :
    (renamed old new v).get? here = (v.get? here).map (renamed old new) := by
  induction here generalizing v with
  | nil => rfl
  | cons step rest ih =>
    rw [get?, get?, kept.first.child?_renamed other]
    cases found : v.child? step with
    | none => rfl
    | some child => exact ih (kept.tail found)

theorem child?_renamed_moved (other : old ≠ new) {value : Json} (member : v.child? (.key old) = some value) :
    (renamed old new v).child? (.key new) = some value := by
  rw [Json.child?_renamed other, if_neg (by simpa using other.symm), if_pos rfl, member, Option.some_or]

theorem get?_renamed_moved (other : old ≠ new) (kept : Kept old new v front)
    (present : (v.get? (front ++ [.key old])).isSome) (rest : Location) :
    (renamed old new v).get? (front ++ .key new :: rest) = v.get? (front ++ .key old :: rest) := by
  obtain ⟨value, found⟩ := Option.isSome_iff_exists.mp present
  rw [get?_append] at found
  obtain ⟨node, there, found⟩ := Option.bind_eq_some_iff.mp found
  rw [get?_singleton] at found
  rw [get?_append, get?_append, get?_renamed other kept, there, Option.map_some, Option.bind_some, Option.bind_some,
    get?, get?, child?_renamed_moved other found, found]

end Locations

/-! ### Where nodes come from and go to -/

/-- The node that was in a member of the old name, at `rest` inside of it, has its place at `here`. -/
structure MovedTo (old new : String) (before : Json) (here front rest : Location) : Prop where
  place : here = front ++ .key new :: rest
  kept : Kept old new before front
  present : (before.get? (front ++ .key old :: rest)).isSome

section Origins

variable {old new : String} {before : Json} {here front front' rest rest' : Location}

theorem MovedTo.member (moved : MovedTo old new before here front rest) :
    (before.get? (front ++ [.key old])).isSome := by
  have present := moved.present
  rw [List.append_cons, get?_append] at present
  exact Option.isSome_of_isSome_bind present

theorem MovedTo.reaches (moved : MovedTo old new before here front rest) : front ++ [.key new] <+: here :=
  ⟨rest, by rw [moved.place, List.append_assoc, List.singleton_append]⟩

/-- No location that is kept leads through the place of a moved member. -/
theorem MovedTo.not_kept (moved : MovedTo old new before here front rest) {top : Location}
    (reaches : front ++ [.key new] <+: top) : ¬ Kept old new before top := by
  intro kept
  have member := moved.member
  rw [kept.unreplaced front reaches] at member
  cases member

theorem MovedTo.length_le (moved : MovedTo old new before here front rest)
    (moved' : MovedTo old new before here front' rest') : front'.length ≤ front.length := by
  -- The place of the one moved member would be inside the front of the other, which is kept.
  refine Nat.le_of_not_lt fun shorter => ?_
  have length : (front ++ [Step.key new]).length ≤ front'.length := by
    rw [List.length_append]
    exact shorter
  have inside : front ++ [.key new] <+: front' :=
    List.prefix_of_prefix_length_le moved.reaches ⟨_, moved'.place.symm⟩ length
  exact moved.not_kept inside moved'.kept

theorem MovedTo.unique (moved : MovedTo old new before here front rest)
    (moved' : MovedTo old new before here front' rest') : front = front' ∧ rest = rest' := by
  have length := Nat.le_antisymm (moved'.length_le moved) (moved.length_le moved')
  obtain ⟨same, after⟩ := List.append_inj (moved.place.symm.trans moved'.place) length
  exact ⟨same, (List.cons.inj after).2⟩

theorem exists_origin (other : old ≠ new) (present : ((renamed old new before).get? here).isSome) :
    Kept old new before here ∧ (before.get? here).isSome ∨
      ∃ front rest, MovedTo old new before here front rest := by
  -- A first step that stays comes before whatever is known of the rest; a moved member ends the search.
  induction here generalizing before with
  | nil => exact .inl ⟨kept_nil, rfl⟩
  | cons step rest ih =>
    obtain ⟨node, found, below⟩ := exists_child?_of_isSome present
    rcases keptStep_or old new before step with first | rfl | ⟨rfl, member⟩
    · rw [first.child?_renamed other] at found
      obtain ⟨child, was, rfl⟩ := Option.map_eq_some_iff.mp found
      rcases ih below with ⟨kept, inside⟩ | ⟨front, back, rfl, kept, inside⟩
      · refine .inl ⟨.cons first was kept, ?_⟩
        rwa [get?, was]
      · refine .inr ⟨step :: front, back, rfl, .cons first was kept, ?_⟩
        rwa [List.cons_append, get?, was]
    · rw [Json.child?_renamed other, if_pos rfl] at found
      cases found
    · obtain ⟨value, member⟩ := Option.isSome_iff_exists.mp member
      rw [child?_renamed_moved other member] at found
      cases found
      refine .inr ⟨[], rest, rfl, kept_nil, ?_⟩
      rwa [List.nil_append, get?, member]

/-- A node stays, moves with the outermost member of the old name, or is in a member whose place is taken. -/
theorem exists_fate (present : (before.get? here).isSome) :
    Kept old new before here ∨
      (∃ front rest, here = front ++ .key old :: rest ∧ Kept old new before front) ∨
      ∃ front rest, here = front ++ .key new :: rest ∧ Kept old new before front ∧
        (before.get? (front ++ [.key old])).isSome := by
  induction here generalizing before with
  | nil => exact .inl kept_nil
  | cons step rest ih =>
    obtain ⟨child, found, below⟩ := exists_child?_of_isSome present
    rcases keptStep_or old new before step with first | rfl | ⟨rfl, member⟩
    · rcases ih below with kept | ⟨front, back, rfl, kept⟩ | ⟨front, back, rfl, kept, member⟩
      · exact .inl (.cons first found kept)
      · exact .inr (.inl ⟨step :: front, back, rfl, .cons first found kept⟩)
      · refine .inr (.inr ⟨step :: front, back, rfl, .cons first found kept, ?_⟩)
        rwa [List.cons_append, get?, found]
    · exact .inr (.inl ⟨[], rest, rfl, kept_nil⟩)
    · refine .inr (.inr ⟨[], rest, rfl, kept_nil, ?_⟩)
      rwa [List.nil_append, get?_singleton]

end Origins

/-! ### Documents with members renamed -/

/-- A node without what lies below it: a scalar, the length of a list, or that it is an object. -/
def outline : Json → Json
  | .obj _ => .obj []
  | v => v.shell

theorem outline_renamed (old new : String) (v : Json) : (renamed old new v).outline = v.outline := by
  cases v with
  | arr items => simp [renamed, renamedItems_eq, outline, shell, Function.comp_def, List.map_const']
  | obj members =>
    rw [renamed]
    cases Members.get? old members <;> rfl
  | _ => rfl

/-- What a renaming leaves alone, what it moves, and that there is nothing else in the outcome. -/
structure Renamed (old new : String) (before after : Json) : Prop where
  stays : ∀ here, Kept old new before here → (after.get? here).map outline = (before.get? here).map outline
  /-- A moved value is as it was, members of the old name inside of it included. -/
  moves : ∀ front rest, Kept old new before front → (before.get? (front ++ [.key old])).isSome →
    after.get? (front ++ .key new :: rest) = before.get? (front ++ .key old :: rest)
  arises : ∀ here, (after.get? here).isSome →
    ((Kept old new before here ∧ (before.get? here).isSome) ∧
        ∀ front rest, ¬ MovedTo old new before here front rest) ∨
      (¬ Kept old new before here ∧
        ∃! parts : Location × Location, MovedTo old new before here parts.1 parts.2)

theorem renamed_renames {old new : String} (other : old ≠ new) (before : Json) :
    Renamed old new before (renamed old new before) := by
  constructor
  · intro here kept
    rw [get?_renamed other kept, Option.map_map]
    exact congrArg (Option.map · (before.get? here)) (funext (outline_renamed old new))
  · intro front rest kept present
    exact get?_renamed_moved other kept present rest
  · intro here present
    rcases exists_origin other present with stays | ⟨front, rest, moved⟩
    · exact .inl ⟨stays, fun front rest moved => moved.not_kept moved.reaches stays.1⟩
    · refine .inr ⟨moved.not_kept moved.reaches, (front, rest), moved, fun parts moved' => ?_⟩
      obtain ⟨sameFront, sameRest⟩ := moved'.unique moved
      exact Prod.ext sameFront sameRest

/-- A member of the old name is found in moved values only. -/
theorem Renamed.inside_moved {old new : String} {before after : Json} (renames : Renamed old new before after)
    (other : old ≠ new) {here : Location} (present : (after.get? here).isSome) (called : .key old ∈ here) :
    ∃ front rest, MovedTo old new before here front rest ∧ .key old ∈ rest := by
  rcases renames.arises here present with ⟨⟨kept, -⟩, -⟩ | ⟨-, ⟨front, rest⟩, moved, -⟩
  · exact absurd called kept.unmoved
  · refine ⟨front, rest, moved, ?_⟩
    rw [moved.place] at called
    rcases List.mem_append.mp called with inFront | inRest
    · exact absurd inFront moved.kept.unmoved
    · rcases List.mem_cons.mp inRest with same | inRest
      · exact absurd (Step.key.inj same) other
      · exact inRest

section Texts

variable {text : String} {document : Json}

theorem draft_rename {old new : String} (other : old ≠ new) (document : Json) :
    (Edit.rename old new).draft document = .ok ⟨renamed old new document, renameCount old document != 0⟩ := by
  rw [Edit.draft, if_neg other]

theorem draft_rename_self (name : String) (document : Json) :
    (Edit.rename name name).draft document = .ok (.start document) := by
  rw [Edit.draft, if_pos rfl]

theorem finish_rename_of_lacks {old new : String} (formed : document.WellFormed) (lacks : document.Lacks old)
    (text : String) : Draft.finish ⟨renamed old new document, renameCount old document != 0⟩ text = text := by
  rw [Draft.finish, renameCount_of_lacks formed lacks]
  rfl

end Texts

/-- A renaming succeeds on every document. Nodes outside of members called `old` stay, and the outermost members
called `old` move as they are, in the place of a member called `new` beside them; only what was in such a member is
lost, and nothing arises anew. A text without a member called `old` is left as it is. -/
theorem renames_outermost_members {old new : String} (other : old ≠ new) {text : String} {document : Json}
    (parsed : parse text = .ok document) :
    ∃ draft, (Edit.rename old new).Succeeds text document draft ∧
      Renamed old new document draft.document ∧
      (∀ here, (draft.document.get? here).isSome → .key old ∈ here →
        ∃ front rest, MovedTo old new document here front rest ∧ .key old ∈ rest) ∧
      (∀ here, (document.get? here).isSome →
        Kept old new document here ∨
          (∃ front rest, here = front ++ .key old :: rest ∧ Kept old new document front) ∨
          ∃ front rest, here = front ++ .key new :: rest ∧ Kept old new document front ∧
            (document.get? (front ++ [.key old])).isSome) ∧
      (document.Lacks old → draft.finish text = text) := by
  have renames := renamed_renames other document
  exact ⟨_, succeeds_of_drafted rfl parsed (draft_rename other document), renames,
    fun here => renames.inside_moved other, fun here => exists_fate,
    fun lacks => finish_rename_of_lacks (legible_of_parse parsed).formed lacks text⟩

/-- The `b` beside the outermost `a` is lost. Another `b` stays, and so does the `a` inside of each moved value. -/
theorem neighbour_is_lost_and_nested_members_stay :
    let document : Json := .obj [("a", .obj [("a", .bool true)]), ("b", .str "lost"),
      ("list", .arr [.obj [("a", .arr [.obj [("a", .null)]]), ("c", .obj [("b", .bool false)])]])]
    ∃ draft, (Edit.rename "a" "b").Succeeds document.render document draft ∧
      draft.document.get? [.key "a"] = none ∧ draft.document.get? [.key "b"] = some (.obj [("a", .bool true)]) ∧
      draft.document.get? [.key "list", .index 0, .key "b"] = some (.arr [.obj [("a", .null)]]) ∧
      (draft.document.get? [.key "list", .index 0, .key "c", .key "b"]).map outline = some (.bool false) := by
  intro document
  have sorted : "a" < "b" ∧ "a" < "c" ∧ "a" < "list" ∧ "b" < "list" := by decide
  have formed : document.WellFormed := by
    simp only [document, WellFormed, WellFormedMembers, WellFormedItems, Members.Ordered, List.pairwise_cons,
      List.forall_mem_cons, List.not_mem_nil, false_imp_iff, implies_true, List.Pairwise.nil, sorted, and_self]
  have numbers : document.NumbersValid := by
    simp [document, NumbersValid, NumbersValidMembers, NumbersValidItems]
  have legible : document.Legible maxDepth := ⟨formed, numbers, by decide⟩
  have other : "a" ≠ "b" := by decide
  have inItem : Kept "a" "b" document [.key "list", .index 0] :=
    .cons ⟨by decide, by decide⟩ rfl (.cons ⟨by decide, by decide⟩ rfl kept_nil)
  have inMember : Kept "a" "b" document [.key "list", .index 0, .key "c", .key "b"] :=
    .cons ⟨by decide, by decide⟩ rfl (.cons ⟨by decide, by decide⟩ rfl (.cons ⟨by decide, by decide⟩ rfl
      (.cons ⟨by decide, fun _ => rfl⟩ rfl kept_nil)))
  obtain ⟨draft, succeeds, renames, inside, -⟩ :=
    renames_outermost_members other (legible.parse_render_self rfl)
  refine ⟨draft, succeeds, ?_, ?_, ?_, ?_⟩
  · refine Option.not_isSome_iff_eq_none.mp fun present => ?_
    obtain ⟨front, rest, moved, -⟩ := inside _ present List.mem_cons_self
    have place : .key "b" ∈ [Step.key "a"] := moved.place ▸ List.mem_append_right front List.mem_cons_self
    exact absurd place (by decide)
  · exact renames.moves [] [] kept_nil rfl
  · exact renames.moves [.key "list", .index 0] [] inItem rfl
  · exact renames.stays _ inMember

end Relay.Json
