import Relay.Route.Table

/-!
# The route of a path

A path resolves to the route of the first entry that matches it, and to none if no entry does.
-/

namespace Relay.Route.Table

/-- This is the route of the first entry, in the order of the table, whose pattern matches the path. -/
def IsFirst (table : Table) (path : String) (route : Route) : Prop :=
  ∃ (place : Nat) (entry : Entry), table.entries[place]? = some entry ∧ entry.route = route ∧
    entry.pattern.matches path = true ∧
    ∀ earlier < place, ∀ other : Entry, table.entries[earlier]? = some other →
      other.pattern.matches path = false

theorem resolve_eq_some_iff {table : Table} {path : String} {route : Route} :
    table.resolve path = some route ↔ table.IsFirst path route := by
  unfold resolve IsFirst
  rw [Option.map_eq_some_iff]
  constructor
  · rintro ⟨entry, found, same⟩
    obtain ⟨fits, place, inside, stands, before⟩ := List.find?_eq_some_iff_getElem.mp found
    refine ⟨place, entry, ?_, same, fits, fun earlier less other there => ?_⟩
    · exact List.getElem?_eq_some_iff.mpr ⟨inside, stands⟩
    · obtain ⟨inside', rfl⟩ := List.getElem?_eq_some_iff.mp there
      simpa using before earlier less
  · rintro ⟨place, entry, stands, same, fits, before⟩
    obtain ⟨inside, here⟩ := List.getElem?_eq_some_iff.mp stands
    refine ⟨entry, List.find?_eq_some_iff_getElem.mpr ⟨fits, place, inside, here, ?_⟩, same⟩
    intro earlier less
    simpa using before earlier less _ (List.getElem?_eq_getElem (Nat.lt_trans less inside))

theorem resolve_eq_none_iff {table : Table} {path : String} :
    table.resolve path = none ↔ ∀ entry ∈ table.entries, entry.pattern.matches path = false := by
  simp [resolve]

end Relay.Route.Table
