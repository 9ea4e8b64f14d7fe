import Relay.Proofs.Json.Naming

/-!
# Documents without some of their members

Some members of a document are left out, all at once, and what lies below them goes with them: `pruned`.
`get?_pruned` and `get?_pruned_of_gone` say what is then found at each location, `pruned_pruned` and
`update_eq_pruned` how one member is left out after others. Leaving members out never makes a path name anything
new: `Names.of_pruned`.
-/

namespace Relay.Json

mutual

/-- The document without the members at the locations that are `gone`. -/
def pruned (gone : Location → Bool) : Json → Json
  | .arr items => .arr (prunedItems gone 0 items)
  | .obj members => .obj (prunedMembers gone members)
  | v => v

def prunedItems (gone : Location → Bool) : Nat → List Json → List Json
  | _, [] => []
  | i, v :: rest => pruned (fun below => gone (.index i :: below)) v :: prunedItems gone (i + 1) rest

def prunedMembers (gone : Location → Bool) : List (String × Json) → List (String × Json)
  | [] => []
  | (k, v) :: rest =>
    if gone [.key k] then prunedMembers gone rest
    else (k, pruned (fun below => gone (.key k :: below)) v) :: prunedMembers gone rest

end

variable {gone : Location → Bool}

/-! ### One level -/

theorem prunedMembers_eq (members : List (String × Json)) :
    prunedMembers gone members =
      (members.filter fun member => !gone [.key member.1]).map fun member =>
        (member.1, pruned (fun below => gone (.key member.1 :: below)) member.2) := by
  induction members with
  | nil => rfl
  | cons member rest ih => cases left : gone [.key member.1] <;> simp [prunedMembers, left, ih]

theorem getElem?_prunedItems (i j : Nat) (items : List Json) :
    (prunedItems gone i items)[j]? =
      items[j]?.map (pruned fun below => gone (.index (i + j) :: below)) := by
  induction items generalizing i j with
  | nil => rfl
  | cons v rest ih =>
    cases j with
    | zero => rfl
    | succ j =>
      have same : i + (j + 1) = i + 1 + j := by omega
      rw [prunedItems, List.getElem?_cons_succ, List.getElem?_cons_succ, ih, same]

theorem length_prunedItems (i : Nat) (items : List Json) : (prunedItems gone i items).length = items.length := by
  induction items generalizing i with
  | nil => rfl
  | cons v rest ih => rw [prunedItems, List.length_cons, List.length_cons, ih]

theorem get?_prunedMembers (name : String) (members : List (String × Json)) :
    Members.get? name (prunedMembers gone members) =
      if gone [.key name] then none
      else (Members.get? name members).map (pruned fun below => gone (.key name :: below)) := by
  induction members with
  | nil => simp [prunedMembers]
  | cons member rest ih =>
    obtain ⟨k, v⟩ := member
    by_cases same : k = name
    · subst same
      cases left : gone [.key k] <;> simp [prunedMembers, Members.get?, left, ih]
    · cases left : gone [.key k] <;> simp [prunedMembers, Members.get?, left, ih, same]

/-- Only members are ever gone, no elements of lists. -/
def OnlyMembers (gone : Location → Bool) : Prop := ∀ front i, gone (front ++ [.index i]) = false

theorem OnlyMembers.below (only : OnlyMembers gone) (here : Location) :
    OnlyMembers fun below => gone (here ++ below) := by
  intro front i
  show gone (here ++ (front ++ [.index i])) = false
  rw [← List.append_assoc]
  exact only (here ++ front) i

theorem child?_pruned {step : Step} (stays : gone [step] = false) (v : Json) :
    (pruned gone v).child? step = (v.child? step).map (pruned fun below => gone (step :: below)) := by
  cases v with
  | arr items =>
    cases step with
    | index i => simp [pruned, child?, getElem?_prunedItems]
    | key name => rfl
  | obj members =>
    cases step with
    | index i => rfl
    | key name => simp [pruned, child?, get?_prunedMembers, stays]
  | _ => cases step <;> rfl

theorem child?_pruned_of_gone (only : OnlyMembers gone) {step : Step} (left : gone [step] = true) (v : Json) :
    (pruned gone v).child? step = none := by
  cases step with
  | index i =>
    have stays : gone [.index i] = false := only [] i
    rw [stays] at left
    cases left
  | key name =>
    cases v with
    | obj members => simp [pruned, child?, get?_prunedMembers, left]
    | _ => rfl

/-! ### Every location -/

/-- Where nothing is gone on the way, what is found is the pruned form of what was there. -/
theorem get?_pruned {here : Location} (stays : ∀ top, top <+: here → gone top = false) (v : Json) :
    (pruned gone v).get? here = (v.get? here).map (pruned fun below => gone (here ++ below)) := by
  induction here generalizing gone v with
  | nil => rfl
  | cons step rest ih =>
    have first : gone [step] = false := stays [step] ⟨rest, rfl⟩
    have deeper : ∀ top, top <+: rest → gone (step :: top) = false := fun top reaches =>
      stays _ ((List.prefix_cons_inj step).mpr reaches)
    rw [get?, get?, child?_pruned first]
    cases v.child? step with
    | none => rfl
    | some child => exact ih deeper child

theorem get?_pruned_of_gone (only : OnlyMembers gone) {top here : Location} (left : gone top = true)
    (some' : top ≠ []) (reaches : top <+: here) (v : Json) : (pruned gone v).get? here = none := by
  induction here generalizing gone v top with
  | nil => exact absurd (List.prefix_nil.mp reaches) some'
  | cons step rest ih =>
    cases top with
    | nil => exact absurd rfl some'
    | cons first top =>
      obtain ⟨rfl, deeper⟩ := List.cons_prefix_cons.mp reaches
      rw [get?]
      cases here : gone [first] with
      | true =>
        rw [child?_pruned_of_gone only here]
        rfl
      | false =>
        rw [child?_pruned here]
        cases v.child? first with
        | none => rfl
        | some child =>
          refine ih (only.below [first]) left ?_ deeper child
          rintro rfl
          rw [here] at left
          cases left

theorem exists_of_get?_pruned (only : OnlyMembers gone) (root : gone [] = false) {here : Location} {v w : Json}
    (found : (pruned gone v).get? here = some w) :
    gone here = false ∧ ∃ node, v.get? here = some node ∧ pruned (fun below => gone (here ++ below)) node = w := by
  by_cases stays : ∀ top, top <+: here → gone top = false
  · rw [get?_pruned stays] at found
    exact ⟨stays here (List.prefix_refl here), Option.map_eq_some_iff.mp found⟩
  · simp only [not_forall, Bool.not_eq_false] at stays
    obtain ⟨top, reaches, left⟩ := stays
    have some' : top ≠ [] := by
      rintro rfl
      rw [root] at left
      cases left
    rw [get?_pruned_of_gone only left some' reaches] at found
    cases found

/-- The shell of a node without the names that are gone. -/
def shellWithout (gone : String → Bool) : Json → Json
  | .obj members => (Json.obj (members.filter fun member => !gone member.1)).shell
  | v => v.shell

theorem shell_pruned (v : Json) : (pruned gone v).shell = v.shellWithout fun name => gone [.key name] := by
  cases v with
  | arr items => simp [pruned, shellWithout, shell, length_prunedItems, List.map_const']
  | obj members => simp [pruned, shellWithout, shell, prunedMembers_eq]
  | _ => rfl

/-! ### One member after others -/

mutual

theorem pruned_of_none {gone : Location → Bool} (none : ∀ step below, gone (step :: below) = false) (v : Json) :
    pruned gone v = v := by
  match v with
  | .null | .bool _ | .num _ | .str _ => rfl
  | .arr items => rw [pruned, prunedItems_of_none (fun i => none (.index i)) 0 items]
  | .obj members => rw [pruned, prunedMembers_of_none (fun k => none (.key k)) members]

theorem prunedItems_of_none {gone : Location → Bool} (none : ∀ i below, gone (.index i :: below) = false)
    (i : Nat) (items : List Json) : prunedItems gone i items = items := by
  match items with
  | [] => rfl
  | v :: rest =>
    have here : pruned (fun below => gone (.index i :: below)) v = v :=
      pruned_of_none (fun step below => none i (step :: below)) v
    rw [prunedItems, here, prunedItems_of_none none (i + 1) rest]

theorem prunedMembers_of_none {gone : Location → Bool} (none : ∀ k below, gone (.key k :: below) = false)
    (members : List (String × Json)) : prunedMembers gone members = members := by
  match members with
  | [] => rfl
  | (k, v) :: rest =>
    have here : pruned (fun below => gone (.key k :: below)) v = v :=
      pruned_of_none (fun step below => none k (step :: below)) v
    rw [prunedMembers, none k [], here, prunedMembers_of_none none rest]
    rfl

end

mutual

theorem pruned_pruned (gone gone' : Location → Bool) (v : Json) :
    pruned gone' (pruned gone v) = pruned (fun here => gone here || gone' here) v := by
  match v with
  | .null | .bool _ | .num _ | .str _ => rfl
  | .arr items => rw [pruned, pruned, pruned, prunedItems_prunedItems gone gone' 0 items]
  | .obj members => rw [pruned, pruned, pruned, prunedMembers_prunedMembers gone gone' members]

theorem prunedItems_prunedItems (gone gone' : Location → Bool) (i : Nat) (items : List Json) :
    prunedItems gone' i (prunedItems gone i items) =
      prunedItems (fun here => gone here || gone' here) i items := by
  match items with
  | [] => rfl
  | v :: rest =>
    have here := pruned_pruned (fun below => gone (.index i :: below)) (fun below => gone' (.index i :: below)) v
    rw [prunedItems, prunedItems, prunedItems, here, prunedItems_prunedItems gone gone' (i + 1) rest]

theorem prunedMembers_prunedMembers (gone gone' : Location → Bool) (members : List (String × Json)) :
    prunedMembers gone' (prunedMembers gone members) =
      prunedMembers (fun here => gone here || gone' here) members := by
  match members with
  | [] => rfl
  | (k, v) :: rest =>
    have here := pruned_pruned (fun below => gone (.key k :: below)) (fun below => gone' (.key k :: below)) v
    have later := prunedMembers_prunedMembers gone gone' rest
    cases left : gone [.key k] with
    | true => simp [prunedMembers, left, later]
    | false => cases left' : gone' [.key k] <;> simp [prunedMembers, left, left', later, here]

end

/-- Whether a location is the one. -/
def isAt (location here : Location) : Bool := decide (here = location)

theorem isAt_cons (step : Step) (rest : Location) :
    (fun below => isAt (step :: rest) (step :: below)) = isAt rest := by
  funext below
  simp [isAt]

theorem isAt_other {step step' : Step} (other : step' ≠ step) (rest below : Location) :
    isAt (step :: rest) (step' :: below) = false :=
  decide_eq_false fun same => other (List.cons.inj same).1

/-- Pruning the node at a location is pruning the document further down. -/
theorem update_eq_pruned (location : Location) {part : Location} (some' : part ≠ []) (v : Json) :
    v.update (pruned (isAt part)) location = pruned (isAt (location ++ part)) v := by
  induction location generalizing v with
  | nil => cases v <;> rfl
  | cons step rest ih =>
    have inside : ∀ child : Json,
        pruned (fun below => isAt (step :: (rest ++ part)) (step :: below)) child =
          update (pruned (isAt part)) child rest := by
      intro child
      rw [isAt_cons, ih]
    have beside : ∀ (step' : Step) (child : Json), step' ≠ step →
        pruned (fun below => isAt (step :: (rest ++ part)) (step' :: below)) child = child :=
      fun step' child other => pruned_of_none (fun next below => isAt_other other _ (next :: below)) child
    have stays : ∀ step', isAt (step :: (rest ++ part)) [step'] = false := by
      intro step'
      refine decide_eq_false fun same => some' ?_
      exact (List.append_eq_nil_iff.mp (List.cons.inj same).2.symm).2
    rw [List.cons_append]
    cases v with
    | arr items =>
      rw [pruned]
      cases step with
      | index i =>
        refine congrArg Json.arr (List.ext_getElem? fun j => ?_)
        rw [List.getElem?_modify, getElem?_prunedItems, Nat.zero_add]
        refine congrArg (Option.map · items[j]?) (funext fun item => ?_)
        by_cases here : i = j
        · subst here
          rw [if_pos rfl, inside]
        · rw [if_neg here, beside _ _ fun same => here (Step.index.inj same).symm]
      | key name =>
        have none : ∀ i below, isAt (.key name :: (rest ++ part)) (.index i :: below) = false := fun i below =>
          isAt_other Step.noConfusion _ below
        exact congrArg Json.arr (prunedItems_of_none none 0 items).symm
    | obj members =>
      rw [pruned]
      cases step with
      | index i =>
        have none : ∀ k below, isAt (.index i :: (rest ++ part)) (.key k :: below) = false := fun k below =>
          isAt_other Step.noConfusion _ below
        exact congrArg Json.obj (prunedMembers_of_none none members).symm
      | key name =>
        have all : (members.filter fun member => !isAt (.key name :: (rest ++ part)) [.key member.1]) = members :=
          List.filter_eq_self.mpr fun member _ => by rw [stays]; rfl
        rw [update, prunedMembers_eq, all]
        refine congrArg Json.obj (List.map_congr_left fun member _ => ?_)
        by_cases here : member.1 = name
        · rw [if_pos here, here, inside]
        · rw [if_neg here, beside _ _ fun same => here (Step.key.inj same)]
    | _ => cases step <;> rfl

/-! ### What a path names -/

theorem Selector.Picks.of_pruned (only : OnlyMembers gone) {selector : Selector} {v : Json} {step : Step}
    (picks : selector.Picks (pruned gone v) step) : selector.Picks v step := by
  have present : ∀ step, ((pruned gone v).child? step).isSome → (v.child? step).isSome := by
    intro step there
    cases left : gone [step] with
    | true =>
      rw [child?_pruned_of_gone only left] at there
      cases there
    | false => rwa [child?_pruned left, Option.isSome_map] at there
  generalize same : pruned gone v = after at picks present
  cases picks with
  | name there => exact .name (present _ there)
  | wildcard there => exact .wildcard (present _ there)
  | @index items k i within counted =>
    cases v with
    | arr before =>
      have length : items.length = before.length := by
        rw [← Json.arr.inj same, length_prunedItems]
      exact .index (length ▸ within) (length ▸ counted)
    | _ => cases same

/-- Leaving members out never makes a path name anything new: lists keep their lengths, and what is still found
was found before. -/
theorem Names.of_pruned (only : OnlyMembers gone) (root : gone [] = false) {segments : List Segment} {v : Json}
    {location : Location} (names : Names segments (pruned gone v) location) : Names segments v location := by
  generalize same : pruned gone v = after at names
  induction names generalizing gone v with
  | nil => exact .nil
  | @cons segment rest node below part further leads found names ih =>
    subst same
    obtain ⟨way, step, inner, rfl, plain, there, selector, listed, picks⟩ := leads
    obtain ⟨-, node, was, rfl⟩ := exists_of_get?_pruned only root there
    have leads : segment.Leads v (way ++ [step]) :=
      ⟨way, step, node, rfl, plain, was, selector, listed, picks.of_pruned (only.below way)⟩
    obtain ⟨stays, node, was, same⟩ := exists_of_get?_pruned only root found
    exact .cons leads was (ih (only.below (way ++ [step])) (by rwa [List.append_nil]) same)

end Relay.Json
