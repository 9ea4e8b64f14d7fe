import Relay.Proofs.Schema.Skipping

/-!
# Fields that are left out

Which fields a document gives a record can be said without reading any of them: the names of an object stand
before values that are passed over, and the items of a list stand for the fields in their order. A part of the
record that only one field changes is as in the blank record when that field is not given
(`Record.omitted_json`, `Record.omitted_toml`).
-/

namespace Relay

open Json (Token ReadError Reading)

namespace Json

variable {ts rest : List Token}

/-- Passes over an item of a list. -/
def passItem : Reading Unit := fun tokens => (skip tokens).map fun rest => ((), rest)

/-- Passes over a member of an object and keeps its name. -/
def passMember (names : List String) (name : String) : Reading (List String) := fun tokens => do
  let rest ← skip (← colon tokens)
  return (name :: names, rest)

theorem length_of_skip (passed : skip ts = .ok rest) : rest.length < ts.length := by
  cases ts with
  | nil => cases passed
  | cons t ts =>
    rw [skip, Skipping.run] at passed
    split at passed
    · cases passed
    · cases passed
      exact Nat.lt_succ_self _
    · exact Nat.lt_succ_of_le (skipping_suffix passed).length_le

theorem itemsFrom_end {α : Type} {item : Reading α} {fuel : Nat} {first : Bool} (ended : endList ts = .ok rest)
    (enough : 0 < fuel) : itemsFrom item fuel first ts = .ok ([], rest) := by
  obtain ⟨fuel, rfl⟩ := Nat.exists_eq_succ_of_ne_zero (Nat.ne_of_gt enough)
  unfold endList at ended
  split at ended <;> cases ended
  rfl

theorem length_of_endList (ended : endList ts = .ok rest) : rest.length < ts.length := by
  unfold endList at ended
  split at ended <;> cases ended
  exact Nat.lt_succ_self _

end Json

namespace Schema

variable {α β σ : Type}

namespace Field

/-- Whatever a field is read to, it leaves a part of the record as it is. -/
structure Leaves (get : σ → β) (field : Field σ) : Prop where
  json : ∀ depth ts set rest, field.value.json depth ts = .ok (set, rest) → ∀ x, get (set x) = get x
  toml : ∀ v set, field.value.toml v = .ok set → ∀ x, get (set x) = get x

end Field

theorem leaves_field {get : σ → β} {s : Schema α} {name : String} {set : α → σ → σ}
    (apart : ∀ x record, get (set x record) = get record) : (field name s set).Leaves get := by
  constructor
  · intro depth ts set' rest read
    obtain ⟨⟨x, left⟩, -, same⟩ := map_ok read
    cases same
    exact apart x
  · intro v set' read
    obtain ⟨x, -, same⟩ := map_ok read
    exact same ▸ apart x

namespace Record

/-- The names of the fields that a document gives: of the members of an object, or of as many fields as a list has
items. -/
def given (r : Record σ) : List Token → List String
  | .mapOpen :: ts => match Json.members Json.passMember [] ts with
    | .ok (names, _) => names
    | .error _ => []
  | .listOpen :: ts => match Json.items Json.passItem ts with
    | .ok (items, _) => (r.fields.map (·.name)).take items.length
    | .error _ => []
  | _ => []

/-- The names of the fields that a TOML value gives. -/
def givenToml (r : Record σ) : Toml → List String
  | .table entries => entries.map (·.1)
  | .datetime _ => [Toml.datetimeKey]
  | .arr items => (r.fields.map (·.name)).take items.length
  | _ => []

variable {r : Record σ} {depth : Nat} {get : σ → β} {name : String} {ts rest : List Token}

/-- No other field than the one of the name changes the part. -/
def OnlyBy (r : Record σ) (name : String) (get : σ → β) : Prop :=
  ∀ field ∈ r.fields, field.name ≠ name → field.Leaves get

theorem name_of_field? {field : Field σ} (found : r.field? name = some field) : field.name = name := by
  have same := List.find?_some found
  exact beq_iff_eq.mp same

theorem record_of_complete {read : σ × List String} {x : σ} (completed : r.complete read = .ok x) : x = read.1 := by
  unfold complete at completed
  split at completed <;> cases completed
  rfl

/-! ### Objects -/

theorem omitted_readMember (only : r.OnlyBy name get) (skips : ∀ field ∈ r.fields, field.Skips depth)
    {member : String} {before after : σ × List String}
    (read : r.readMember depth before member ts = .ok (after, rest)) (names : List String) :
    Json.passMember names member ts = .ok (member :: names, rest) ∧ (member ≠ name → get after.1 = get before.1) := by
  obtain ⟨mid, opened, passed⟩ := skips_readMember skips before member _ _ _ read
  refine ⟨by simp only [Json.passMember, opened, passed, bind, Except.bind]; rfl, fun other => ?_⟩
  unfold readMember at read
  split at read
  · rename_i field found
    split at read
    · cases read
    · obtain ⟨mid, -, read⟩ := bind_ok read
      obtain ⟨⟨set, left⟩, here, same⟩ := bind_ok read
      cases same
      exact (only field (field?_mem found) (name_of_field? found ▸ other)).json _ _ _ _ here before.1
  · split at read
    · cases read
    · obtain ⟨mid, -, read⟩ := bind_ok read
      obtain ⟨left, -, same⟩ := bind_ok read
      cases same
      rfl

theorem omitted_membersFrom (only : r.OnlyBy name get) (skips : ∀ field ∈ r.fields, field.Skips depth)
    {fuel : Nat} {first : Bool} {before after : σ × List String}
    (read : Json.membersFrom (r.readMember depth) fuel first before ts = .ok (after, rest)) (names : List String) :
    ∃ given, Json.membersFrom Json.passMember fuel first names ts = .ok (given ++ names, rest) ∧
      (name ∉ given → get after.1 = get before.1) := by
  induction fuel generalizing first before ts names with
  | zero => cases read
  | succ fuel ih =>
    rw [Json.membersFrom] at read
    obtain ⟨next, start, read⟩ := bind_ok read
    cases next with
    | none =>
      cases read
      exact ⟨[], by rw [Json.membersFrom, start]; rfl, fun _ => rfl⟩
    | some ts' =>
      obtain ⟨⟨member, mid⟩, named, read⟩ := bind_ok read
      obtain ⟨⟨next, last⟩, here, read⟩ := bind_ok read
      obtain ⟨passed, one⟩ := omitted_readMember only skips here names
      obtain ⟨given, run, later⟩ := ih read (member :: names)
      refine ⟨given ++ [member], ?_, fun absent => ?_⟩
      · rw [Json.membersFrom, start]
        simp only [bind, Except.bind, named, passed]
        rw [run, List.append_assoc]
        rfl
      · rw [List.mem_append, List.mem_singleton, not_or] at absent
        exact (later absent.1).trans (one (Ne.symm absent.2))

/-! ### Lists -/

theorem omitted_readItems {fields : List (Field σ)} (only : ∀ field ∈ fields, field.name ≠ name → field.Leaves get)
    (skips : ∀ field ∈ fields, field.Skips depth) {read : Nat} {before after : σ}
    (found : r.readItems depth fields read before ts = .ok (after, rest)) :
    ∃ count, count + rest.length < ts.length ∧
      (∀ fuel, count < fuel →
        Json.itemsFrom Json.passItem fuel (read == 0) ts = .ok (List.replicate count (), rest)) ∧
      (name ∉ (fields.map (·.name)).take count → get after = get before) := by
  induction fields generalizing read before ts with
  | nil =>
    obtain ⟨left, ended, same⟩ := map_ok found
    cases same
    exact ⟨0, by simpa using Json.length_of_endList ended, fun _ => Json.itemsFrom_end ended, fun _ => rfl⟩
  | cons field fields ih =>
    obtain ⟨here, later⟩ := List.forall_mem_cons.mp only
    obtain ⟨skip, skips⟩ := List.forall_mem_cons.mp skips
    rw [readItems] at found
    obtain ⟨next, start, found⟩ := bind_ok found
    cases next with
    | none =>
      obtain ⟨_, _, found⟩ := bind_ok found
      obtain ⟨left, ended, same⟩ := bind_ok found
      cases same
      exact ⟨0, by simpa using Json.length_of_endList ended, fun _ => Json.itemsFrom_end ended, fun _ => rfl⟩
    | some ts' =>
      obtain ⟨⟨set, mid⟩, one, found⟩ := bind_ok found
      obtain ⟨count, short, run, kept⟩ := ih later skips found
      have passed : Json.skip ts' = .ok mid := skip _ _ _ one
      refine ⟨count + 1, ?_, fun fuel enough => ?_, fun absent => ?_⟩
      · have fewer := Json.length_of_skip passed
        have part := (Json.nextItem_suffix start).length_le
        omega
      · cases fuel with
        | zero => omega
        | succ fuel =>
          have onward : Json.itemsFrom Json.passItem fuel false mid = .ok (List.replicate count (), rest) :=
            run fuel (Nat.lt_of_succ_lt_succ enough)
          have item : Json.passItem ts' = .ok ((), mid) := by rw [Json.passItem, passed]; rfl
          rw [Json.itemsFrom, start]
          simp only [bind, Except.bind, item, onward]
          rfl
      · rw [List.map_cons, List.take_succ_cons, List.mem_cons, not_or] at absent
        exact (kept absent.2).trans ((here (Ne.symm absent.1)).json _ _ _ _ one before)

/-- A part of a record that no given field changes is that of the blank record. -/
theorem omitted_json (only : r.OnlyBy name get) (skips : ∀ depth, ∀ field ∈ r.fields, field.Skips depth) {x : σ}
    (read : r.schema.json depth ts = .ok (x, rest)) (absent : name ∉ r.given ts) : get x = get r.blank := by
  simp only [schema] at read
  split at read
  · cases read
  · cases read
  · rename_i depth ts
    obtain ⟨count, short, run, kept⟩ := omitted_readItems only (skips depth) read
    have passed : Json.items Json.passItem ts = .ok (List.replicate count (), rest) := run _ (by omega)
    simp only [given, passed, List.length_replicate] at absent
    exact kept absent
  · obtain ⟨⟨after, left⟩, inside, read⟩ := bind_ok read
    obtain ⟨record, completed, same⟩ := bind_ok read
    cases same
    obtain ⟨names, run, kept⟩ := omitted_membersFrom only (skips _) inside []
    rw [List.append_nil] at run
    simp only [given, Json.members, run] at absent
    rw [record_of_complete (mapError_ok completed)]
    exact kept absent
  · cases read

/-! ### TOML -/

theorem omitted_readEntry (only : r.OnlyBy name get) {before after : σ × List String} {entry : String × Toml}
    (read : r.readEntry before entry = .ok after) (other : entry.1 ≠ name) : get after.1 = get before.1 := by
  unfold readEntry at read
  split at read
  · rename_i field found
    obtain ⟨set, here, same⟩ := bind_ok read
    cases same
    exact (only field (field?_mem found) (name_of_field? found ▸ other)).toml _ _ here before.1
  · split at read <;> cases read
    rfl

theorem omitted_entries (only : r.OnlyBy name get) {before after : σ × List String} {entries : List (String × Toml)}
    (read : entries.foldlM r.readEntry before = .ok after) (absent : name ∉ entries.map (·.1)) :
    get after.1 = get before.1 := by
  induction entries generalizing before with
  | nil =>
    cases read
    rfl
  | cons entry entries ih =>
    rw [List.map_cons, List.mem_cons, not_or] at absent
    rw [List.foldlM_cons] at read
    obtain ⟨next, here, read⟩ := bind_ok read
    exact (ih read absent.2).trans (omitted_readEntry only here (Ne.symm absent.1))

theorem omitted_readElements {fields : List (Field σ)}
    (only : ∀ field ∈ fields, field.name ≠ name → field.Leaves get) {read : Nat} {before after : σ}
    {items : List Toml} (found : r.readElements fields read before items = .ok after)
    (absent : name ∉ (fields.map (·.name)).take items.length) : get after = get before := by
  induction fields generalizing read before items with
  | nil =>
    cases found
    rfl
  | cons field fields ih =>
    cases items with
    | nil =>
      obtain ⟨_, _, same⟩ := bind_ok found
      cases same
      rfl
    | cons v items =>
      obtain ⟨here, later⟩ := List.forall_mem_cons.mp only
      rw [List.map_cons, List.length_cons, List.take_succ_cons, List.mem_cons, not_or] at absent
      obtain ⟨set, one, found⟩ := bind_ok found
      exact (ih later found absent.2).trans ((here (Ne.symm absent.1)).toml _ _ one before)

theorem omitted_toml (only : r.OnlyBy name get) {v : Toml} {x : σ} (read : r.schema.toml v = .ok x)
    (absent : name ∉ r.givenToml v) : get x = get r.blank := by
  simp only [schema] at read
  split at read
  · obtain ⟨after, inside, completed⟩ := bind_ok read
    rw [record_of_complete (mapError_ok completed)]
    exact omitted_entries only inside absent
  · obtain ⟨after, inside, completed⟩ := bind_ok read
    rw [record_of_complete (mapError_ok completed)]
    exact omitted_readEntry only inside (Ne.symm (List.mem_singleton.not.mp absent))
  · exact omitted_readElements only read absent
  · cases read

end Record

theorem read_of_parseJson {s : Schema α} {source : String} {x : α} (read : s.parseJson source = .ok x) :
    s.json Json.maxDepth (Json.tokens source) = .ok (x, []) := by
  obtain ⟨⟨y, rest⟩, found, done⟩ := bind_ok read
  cases rest <;> cases done
  exact found

end Schema
end Relay
