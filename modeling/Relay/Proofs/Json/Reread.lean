import Relay.Proofs.Json.Naming

/-!
# Documents that are read again

A document that is read again from its own text has the same nodes at the same places; only the values of doubles may
differ. So a path names the same locations in it: `mem_locate_reread`.
-/

namespace Relay.Json

theorem get?_rereadMembers (key : String) (members : Members Json) :
    Members.get? key (rereadMembers members) = (Members.get? key members).map reread := by
  induction members with
  | nil => rfl
  | cons member rest ih =>
    obtain ⟨name, v⟩ := member
    rw [rereadMembers, Members.get?, Members.get?, ih]
    split <;> rfl

theorem child?_reread (v : Json) (step : Step) : v.reread.child? step = (v.child? step).map reread := by
  cases v with
  | arr items =>
    cases step with
    | key name => rfl
    | index i => rw [reread, rereadItems_eq, child?, child?, List.getElem?_map]
  | obj members =>
    cases step with
    | key name => exact get?_rereadMembers name members
    | index i => rfl
  | _ => cases step <;> rfl

theorem get?_reread (v : Json) (here : Location) : v.reread.get? here = (v.get? here).map reread := by
  induction here generalizing v with
  | nil => rfl
  | cons step rest ih =>
    rw [get?, get?, child?_reread]
    cases v.child? step with
    | none => rfl
    | some child => exact ih child

/-! ### What a path names -/

theorem Selector.picks_reread {selector : Selector} {v : Json} {step : Step} :
    selector.Picks v.reread step ↔ selector.Picks v step := by
  have present : ∀ step, (v.reread.child? step).isSome = (v.child? step).isSome := fun step => by
    rw [child?_reread, Option.isSome_map]
  constructor
  · intro picks
    cases selector with
    | name key =>
      cases picks with
      | name found => exact .name (present _ ▸ found)
    | wildcard =>
      cases picks with
      | wildcard found => exact .wildcard (present _ ▸ found)
    | index k =>
      cases v with
      | arr items =>
        rw [reread, rereadItems_eq] at picks
        cases picks with
        | index within counted => exact .index (by simpa using within) (by simpa using counted)
      | _ => cases picks
  · intro picks
    cases picks with
    | name found => exact .name (present _ ▸ found)
    | wildcard found => exact .wildcard (present _ ▸ found)
    | index within counted =>
      rw [reread, rereadItems_eq]
      exact .index (by simpa using within) (by simpa using counted)

theorem Segment.leads_reread {segment : Segment} {v : Json} {part : Location} :
    segment.Leads v.reread part ↔ segment.Leads v part := by
  constructor
  · rintro ⟨way, step, below, rfl, plain, found, selector, listed, picks⟩
    rw [get?_reread] at found
    obtain ⟨node, found', rfl⟩ := Option.map_eq_some_iff.mp found
    exact ⟨way, step, node, rfl, plain, found', selector, listed, Selector.picks_reread.mp picks⟩
  · rintro ⟨way, step, below, rfl, plain, found, selector, listed, picks⟩
    refine ⟨way, step, below.reread, rfl, plain, ?_, selector, listed, Selector.picks_reread.mpr picks⟩
    rw [get?_reread, found, Option.map_some]

theorem names_reread {segments : List Segment} {v : Json} {here : Location} :
    Names segments v.reread here ↔ Names segments v here := by
  constructor
  · intro names
    induction segments generalizing v here with
    | nil =>
      cases names
      exact .nil
    | cons segment rest ih =>
      cases names with
      | cons leads found names =>
        rw [get?_reread] at found
        obtain ⟨node, found', rfl⟩ := Option.map_eq_some_iff.mp found
        exact .cons (Segment.leads_reread.mp leads) found' (ih names)
  · intro names
    induction names with
    | nil => exact .nil
    | cons leads found names ih =>
      exact .cons (Segment.leads_reread.mpr leads) (by rw [get?_reread, found, Option.map_some]) ih

theorem mem_locate_reread {path : Path} {v : Json} (formed : v.WellFormed) {here : Location} :
    here ∈ path.locate v.reread ↔ here ∈ path.locate v := by
  rw [mem_locate formed, mem_locate formed.reread, names_reread]

end Relay.Json
