import Relay.Json.Location

/-!
# Documents with nodes overlaid

Some nodes of a document get other nodes in their place, all at once: `overlay` walks down from the root and
goes no further below a node that it replaces. `get?_overlay` and `get?_overlay_below` say what is then found at
each location, `update_eq_overlay` and `overlay_overlay` how one replacement is joined to others.
-/

namespace Relay.Json

/-! ### Locations and nodes above one another -/

/-- The second location lies below the first one. -/
def Location.Above (above here : Location) : Prop := ∃ step rest, here = above ++ step :: rest

namespace Location

theorem not_above_nil {above : Location} : ¬ above.Above [] := by
  rintro ⟨step, rest, same⟩
  exact absurd same.symm (List.append_ne_nil_of_right_ne_nil _ nofun)

theorem nil_above_cons (step : Step) (rest : Location) : Above [] (step :: rest) := ⟨step, rest, rfl⟩

theorem cons_above_cons {step step' : Step} {above here : Location} :
    Above (step :: above) (step' :: here) ↔ step = step' ∧ above.Above here := by
  constructor
  · rintro ⟨next, rest, same⟩
    obtain ⟨rfl, rfl⟩ := List.cons.inj same
    exact ⟨rfl, next, rest, rfl⟩
  · rintro ⟨rfl, next, rest, rfl⟩
    exact ⟨next, rest, rfl⟩

theorem append_above_append (front : Location) {above here : Location} :
    Above (front ++ above) (front ++ here) ↔ above.Above here := by
  simp only [Above, List.append_assoc, List.append_cancel_left_eq]

theorem Above.append {above here : Location} (below : above.Above here) (back : Location) :
    above.Above (here ++ back) := by
  obtain ⟨step, rest, rfl⟩ := below
  exact ⟨step, rest ++ back, by rw [List.append_assoc, List.cons_append]⟩

theorem Above.of_prefix {top above here : Location} (below : above.Above here) (reaches : top <+: above) :
    top.Above here := by
  obtain ⟨step, rest, rfl⟩ := below
  obtain ⟨more, rfl⟩ := reaches
  rw [List.append_assoc]
  cases more with
  | nil => exact ⟨step, rest, rfl⟩
  | cons first more => exact ⟨first, more ++ step :: rest, rfl⟩

theorem Above.length_lt {above here : Location} (below : above.Above here) : above.length < here.length := by
  obtain ⟨step, rest, rfl⟩ := below
  simp only [List.length_append, List.length_cons]
  omega

theorem not_above_of_length_eq {above here : Location} (same : above.length = here.length) : ¬ above.Above here :=
  fun below => absurd below.length_lt (same ▸ Nat.lt_irrefl _)

theorem above_concat {above here : Location} {step : Step} : above.Above (here ++ [step]) ↔ above <+: here := by
  constructor
  · intro below
    have further := below.length_lt
    obtain ⟨step', rest, same⟩ := below
    rcases List.prefix_concat_iff.mp ⟨step' :: rest, same.symm⟩ with whole | front
    · rw [whole] at further
      exact absurd further (Nat.lt_irrefl _)
    · exact front
  · rintro ⟨rest, rfl⟩
    cases rest with
    | nil => exact ⟨step, [], by rw [List.append_nil]⟩
    | cons first rest => exact ⟨first, rest ++ [step], by rw [List.append_assoc, List.cons_append]⟩

theorem prefix_iff {above here : Location} : above <+: here ↔ above = here ∨ above.Above here := by
  constructor
  · rintro ⟨_ | ⟨step, rest⟩, rfl⟩
    · exact .inl (List.append_nil above).symm
    · exact .inr ⟨step, rest, rfl⟩
  · rintro (rfl | ⟨step, rest, rfl⟩)
    · exact List.prefix_refl _
    · exact List.prefix_append _ _

end Location

theorem get?_append (v : Json) (front back : Location) :
    v.get? (front ++ back) = (v.get? front).bind fun node => node.get? back := by
  induction front generalizing v with
  | nil => rfl
  | cons step front ih =>
    rw [List.cons_append, get?, get?]
    cases v.child? step with
    | none => rfl
    | some child => exact ih child

/-- A node without what lies below it: a scalar, the length of a list or the names in an object. -/
def shell : Json → Json
  | .arr items => .arr (items.map fun _ => .null)
  | .obj members => .obj (members.map fun member => (member.1, .null))
  | v => v

/-- A node with nothing below it. -/
def IsLeaf (v : Json) : Prop := ∀ step, v.child? step = none

theorem isLeaf_str (s : String) : (Json.str s).IsLeaf := fun step => by cases step <;> rfl

/-! ### Overlays -/

mutual

/-- The document with `new` in place of the nodes that it answers for, the outermost ones. -/
def overlay (new : Location → Option Json) : Json → Json
  | .arr items => (new []).getD (.arr (overlayItems new 0 items))
  | .obj members => (new []).getD (.obj (overlayMembers new members))
  | v => (new []).getD v

def overlayItems (new : Location → Option Json) : Nat → List Json → List Json
  | _, [] => []
  | i, v :: rest => overlay (fun below => new (.index i :: below)) v :: overlayItems new (i + 1) rest

def overlayMembers (new : Location → Option Json) : List (String × Json) → List (String × Json)
  | [] => []
  | (k, v) :: rest => (k, overlay (fun below => new (.key k :: below)) v) :: overlayMembers new rest

end

variable {new new' : Location → Option Json}

theorem overlay_of_some {w : Json} (hit : new [] = some w) (v : Json) : overlay new v = w := by
  cases v <;> simp [overlay, hit]

theorem overlay_of_isLeaf {v : Json} (leaf : v.IsLeaf) : overlay new v = (new []).getD v := by
  cases v with
  | arr items =>
    cases items with
    | nil => rfl
    | cons item rest => exact absurd (leaf (.index 0)) nofun
  | obj members =>
    cases members with
    | nil => rfl
    | cons member rest => exact absurd (leaf (.key member.1)) (by simp [child?, Members.get?])
  | _ => rfl

theorem getElem?_overlayItems (i j : Nat) (items : List Json) :
    (overlayItems new i items)[j]? =
      items[j]?.map (overlay fun below => new (.index (i + j) :: below)) := by
  induction items generalizing i j with
  | nil => rfl
  | cons v rest ih =>
    cases j with
    | zero => rfl
    | succ j =>
      have same : i + (j + 1) = i + 1 + j := by omega
      rw [overlayItems, List.getElem?_cons_succ, List.getElem?_cons_succ, ih, same]

theorem overlayMembers_eq_map (members : List (String × Json)) :
    overlayMembers new members =
      members.map fun member => (member.1, overlay (fun below => new (.key member.1 :: below)) member.2) := by
  induction members with
  | nil => rfl
  | cons member rest ih => rw [overlayMembers, List.map_cons, ih]

theorem get?_overlayMembers (name : String) (members : List (String × Json)) :
    Members.get? name (overlayMembers new members) =
      (Members.get? name members).map (overlay fun below => new (.key name :: below)) := by
  induction members with
  | nil => rfl
  | cons member rest ih =>
    obtain ⟨k, v⟩ := member
    rw [overlayMembers, Members.get?, Members.get?]
    split
    · rename_i same
      rw [same]
      rfl
    · exact ih

theorem child?_overlay (unhit : new [] = none) (v : Json) (step : Step) :
    (overlay new v).child? step = (v.child? step).map (overlay fun below => new (step :: below)) := by
  cases v with
  | arr items =>
    cases step with
    | index i => simp [overlay, unhit, child?, getElem?_overlayItems]
    | key name => simp [overlay, unhit, child?]
  | obj members =>
    cases step with
    | index i => simp [overlay, unhit, child?]
    | key name => simp [overlay, unhit, child?, get?_overlayMembers]
  | _ => simp [overlay, unhit, child?]

/-- Above a location nothing is replaced: what is found there is the overlay of what was there. -/
theorem get?_overlay {location : Location} (unhit : ∀ above, above.Above location → new above = none)
    (v : Json) :
    (overlay new v).get? location =
      (v.get? location).map (overlay fun below => new (location ++ below)) := by
  induction location generalizing new v with
  | nil => rfl
  | cons step rest ih =>
    have here : new [] = none := unhit [] (Location.nil_above_cons step rest)
    have deeper : ∀ above, Location.Above above rest → new (step :: above) = none := fun above below =>
      unhit _ (Location.cons_above_cons.mpr ⟨rfl, below⟩)
    rw [get?, get?, child?_overlay here]
    cases v.child? step with
    | none => rfl
    | some child => exact ih deeper child

theorem get?_overlay_below {above location : Location} (below : above.Above location)
    (leaves : ∀ here w, here.Above location → new here = some w → w.IsLeaf) (hit : (new above).isSome) (v : Json) :
    (overlay new v).get? location = none := by
  induction location generalizing new v above with
  | nil => exact absurd below Location.not_above_nil
  | cons step rest ih =>
    cases here : new [] with
    | some w =>
      have leaf : w.IsLeaf := leaves [] w (Location.nil_above_cons step rest) here
      rw [overlay_of_some here, get?, leaf]
      rfl
    | none =>
      cases above with
      | nil => simp [here] at hit
      | cons first above =>
        obtain ⟨rfl, deeper⟩ := Location.cons_above_cons.mp below
        rw [get?, child?_overlay here]
        cases v.child? first with
        | none => rfl
        | some child =>
          refine ih deeper (fun here w higher => leaves (first :: here) w ?_) hit child
          exact Location.cons_above_cons.mpr ⟨rfl, higher⟩

theorem length_overlayItems (i : Nat) (items : List Json) : (overlayItems new i items).length = items.length := by
  induction items generalizing i with
  | nil => rfl
  | cons v rest ih => rw [overlayItems, List.length_cons, List.length_cons, ih]

theorem shell_overlay (unhit : new [] = none) (v : Json) : (overlay new v).shell = v.shell := by
  cases v with
  | arr items => simp [overlay, unhit, shell, length_overlayItems, List.map_const']
  | obj members => simp [overlay, unhit, shell, overlayMembers_eq_map]
  | _ => simp [overlay, unhit, shell]

/-! ### Overlays joined -/

mutual

theorem overlay_of_none {new : Location → Option Json} (none : ∀ here, new here = none) (v : Json) :
    overlay new v = v := by
  match v with
  | .null | .bool _ | .num _ | .str _ => simp [overlay, none]
  | .arr items => simp [overlay, none, overlayItems_of_none (fun i below => none (.index i :: below)) 0 items]
  | .obj members => simp [overlay, none, overlayMembers_of_none (fun k below => none (.key k :: below)) members]

theorem overlayItems_of_none {new : Location → Option Json} (none : ∀ i below, new (.index i :: below) = none)
    (i : Nat) (items : List Json) : overlayItems new i items = items := by
  match items with
  | [] => rfl
  | v :: rest =>
    have here : overlay (fun below => new (.index i :: below)) v = v := overlay_of_none (none i) v
    rw [overlayItems, here, overlayItems_of_none none (i + 1) rest]

theorem overlayMembers_of_none {new : Location → Option Json} (none : ∀ k below, new (.key k :: below) = none)
    (members : List (String × Json)) : overlayMembers new members = members := by
  match members with
  | [] => rfl
  | (k, v) :: rest =>
    have here : overlay (fun below => new (.key k :: below)) v = v := overlay_of_none (none k) v
    rw [overlayMembers, here, overlayMembers_of_none none rest]

end

/-- Two overlays answer alike, but for what lies below a node that the first one replaces. -/
def SameAbove (new new' : Location → Option Json) : Prop :=
  ∀ here, (∀ above, above.Above here → new above = none) → new here = new' here

theorem SameAbove.deeper (same : SameAbove new new') (unhit : new [] = none) (step : Step) :
    SameAbove (fun below => new (step :: below)) (fun below => new' (step :: below)) := by
  intro here above
  refine same (step :: here) fun location below => ?_
  cases location with
  | nil => exact unhit
  | cons first rest =>
    obtain ⟨rfl, deeper⟩ := Location.cons_above_cons.mp below
    exact above rest deeper

mutual

theorem overlay_congr {new new' : Location → Option Json} (same : SameAbove new new') (v : Json) :
    overlay new v = overlay new' v := by
  have root : new [] = new' [] := same [] fun _ above => absurd above Location.not_above_nil
  cases hit : new [] with
  | some w => rw [overlay_of_some hit, overlay_of_some (root.symm.trans hit)]
  | none =>
    match v with
    | .null | .bool _ | .num _ | .str _ => simp [overlay, root]
    | .arr items => simp [overlay, root, overlayItems_congr (same.deeper hit) 0 items]
    | .obj members => simp [overlay, root, overlayMembers_congr (same.deeper hit) members]

theorem overlayItems_congr {new new' : Location → Option Json}
    (same : ∀ step, SameAbove (fun below => new (step :: below)) (fun below => new' (step :: below)))
    (i : Nat) (items : List Json) : overlayItems new i items = overlayItems new' i items := by
  match items with
  | [] => rfl
  | v :: rest =>
    have here : overlay (fun below => new (.index i :: below)) v =
        overlay (fun below => new' (.index i :: below)) v := overlay_congr (same (.index i)) v
    rw [overlayItems, overlayItems, here, overlayItems_congr same (i + 1) rest]

theorem overlayMembers_congr {new new' : Location → Option Json}
    (same : ∀ step, SameAbove (fun below => new (step :: below)) (fun below => new' (step :: below)))
    (members : List (String × Json)) : overlayMembers new members = overlayMembers new' members := by
  match members with
  | [] => rfl
  | (k, v) :: rest =>
    have here : overlay (fun below => new (.key k :: below)) v =
        overlay (fun below => new' (.key k :: below)) v := overlay_congr (same (.key k)) v
    rw [overlayMembers, overlayMembers, here, overlayMembers_congr same rest]

end

/-- What the first overlay puts in place of a node is kept or replaced by the second one, as a whole. -/
def Settles (new new' : Location → Option Json) : Prop :=
  ∀ here w, new here = some w → overlay (fun below => new' (here ++ below)) w = (new' here).getD w

theorem settles_of_leaves (leaves : ∀ here w, new here = some w → w.IsLeaf) : Settles new new' := by
  intro here w hit
  rw [overlay_of_isLeaf (leaves here w hit), List.append_nil]

theorem Settles.deeper (settles : Settles new new') (step : Step) :
    Settles (fun below => new (step :: below)) (fun below => new' (step :: below)) :=
  fun here => settles (step :: here)

mutual

theorem overlay_overlay {new new' : Location → Option Json} (settles : Settles new new') (v : Json) :
    overlay new' (overlay new v) = overlay (fun here => (new' here).or (new here)) v := by
  cases hit : new [] with
  | some w =>
    have both : (new' []).or (new []) = some ((new' []).getD w) := by rw [hit]; cases new' [] <;> rfl
    rw [overlay_of_some hit]
    exact (settles [] w hit).trans (overlay_of_some both v).symm
  | none =>
    cases later : new' [] with
    | some w' =>
      have both : (new' []).or (new []) = some w' := by rw [later]; rfl
      rw [overlay_of_some later, overlay_of_some both]
    | none =>
      match v with
      | .null | .bool _ | .num _ | .str _ => simp [overlay, later, hit]
      | .arr items => simp [overlay, later, hit, overlayItems_overlay settles.deeper 0 items]
      | .obj members => simp [overlay, later, hit, overlayMembers_overlay settles.deeper members]

theorem overlayItems_overlay {new new' : Location → Option Json}
    (settles : ∀ step, Settles (fun below => new (step :: below)) (fun below => new' (step :: below)))
    (i : Nat) (items : List Json) :
    overlayItems new' i (overlayItems new i items) =
      overlayItems (fun here => (new' here).or (new here)) i items := by
  match items with
  | [] => rfl
  | v :: rest =>
    have here : overlay (fun below => new' (.index i :: below))
          (overlay (fun below => new (.index i :: below)) v) =
        overlay (fun below => (new' (.index i :: below)).or (new (.index i :: below))) v :=
      overlay_overlay (settles (.index i)) v
    rw [overlayItems, overlayItems, overlayItems, here, overlayItems_overlay settles (i + 1) rest]

theorem overlayMembers_overlay {new new' : Location → Option Json}
    (settles : ∀ step, Settles (fun below => new (step :: below)) (fun below => new' (step :: below)))
    (members : List (String × Json)) :
    overlayMembers new' (overlayMembers new members) =
      overlayMembers (fun here => (new' here).or (new here)) members := by
  match members with
  | [] => rfl
  | (k, v) :: rest =>
    have here : overlay (fun below => new' (.key k :: below)) (overlay (fun below => new (.key k :: below)) v) =
        overlay (fun below => (new' (.key k :: below)).or (new (.key k :: below))) v :=
      overlay_overlay (settles (.key k)) v
    rw [overlayMembers, overlayMembers, overlayMembers, here, overlayMembers_overlay settles rest]

end

/-! ### One replacement -/

/-- The one answer of a single location. -/
def only (location : Location) (w : Json) (here : Location) : Option Json :=
  if here = location then some w else none

theorem only_same (step : Step) (rest : Location) (w : Json) :
    (fun below => only (step :: rest) w (step :: below)) = only rest w := by
  funext below
  simp [only]

theorem only_other {step step' : Step} (other : step' ≠ step) (rest below : Location) (w : Json) :
    only (step :: rest) w (step' :: below) = none := if_neg fun same => other (List.cons.inj same).1

/-- One replacement leaves what an overlay puts in other places, if its own place is neither there nor below. -/
theorem settles_only {location : Location} (unhit : ∀ above, above <+: location → new above = none) (w : Json) :
    Settles new (only location w) := by
  intro here v hit
  have none : ∀ below, only location w (here ++ below) = none := fun below => if_neg fun same => by
    rw [unhit here ⟨below, same⟩] at hit
    cases hit
  have root := none []
  rw [List.append_nil] at root
  rw [overlay_of_none none, root]
  rfl

theorem update_eq_overlay (w v : Json) (location : Location) :
    v.update (fun _ => w) location = overlay (only location w) v := by
  induction location generalizing v with
  | nil =>
    have root : only [] w [] = some w := rfl
    rw [overlay_of_some root]
    cases v <;> rfl
  | cons step rest ih =>
    have unhit : only (step :: rest) w [] = none := rfl
    cases v with
    | arr items =>
      rw [overlay, unhit, Option.getD_none]
      cases step with
      | index i =>
        refine congrArg Json.arr (List.ext_getElem? fun j => ?_)
        rw [List.getElem?_modify, getElem?_overlayItems, Nat.zero_add]
        refine congrArg (Option.map · items[j]?) (funext fun item => ?_)
        split
        · rename_i here
          rw [here, only_same, ih]
        · rename_i other
          have other : Step.index j ≠ .index i := fun same => other (Step.index.inj same).symm
          rw [overlay_of_none fun below => only_other other rest below w]
      | key name =>
        have none : ∀ i below, only (.key name :: rest) w (.index i :: below) = none := fun i below =>
          only_other Step.noConfusion rest below w
        exact congrArg Json.arr (overlayItems_of_none none 0 items).symm
    | obj members =>
      rw [overlay, unhit, Option.getD_none]
      cases step with
      | index i =>
        have none : ∀ k below, only (.index i :: rest) w (.key k :: below) = none := fun k below =>
          only_other Step.noConfusion rest below w
        exact congrArg Json.obj (overlayMembers_of_none none members).symm
      | key name =>
        rw [update, overlayMembers_eq_map]
        refine congrArg Json.obj (List.map_congr_left fun member _ => ?_)
        split
        · rename_i here
          rw [here, only_same, ih]
        · rename_i other
          have other : Step.key member.1 ≠ .key name := fun same => other (Step.key.inj same)
          rw [overlay_of_none fun below => only_other other rest below w]
    | _ => cases step <;> rfl

end Relay.Json
