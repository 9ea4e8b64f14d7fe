import Relay.Proofs.Json.Legible
import Relay.Schema

/-!
# What schemas read

What holds of every value that the parts of a schema read holds of the values that the schema reads. A record
keeps what each of its fields keeps, in whatever order and form the fields come.
-/

namespace Relay

open Json (Token ReadError Yields ValidTokens)

/-! ### Values that are passed over -/

namespace Json

theorem skipping_suffix {mode : Skipping} {frames : List Frame} {ts rest : List Token}
    (passed : mode.run frames ts = .ok rest) : rest <:+ ts := by
  induction ts generalizing mode frames with
  | nil => cases passed
  | cons t ts ih =>
    rw [Skipping.run] at passed
    split at passed
    · cases passed
    · cases passed
      exact List.suffix_cons _ _
    · exact (ih passed).trans (List.suffix_cons _ _)

theorem endList_suffix {ts rest : List Token} (passed : endList ts = .ok rest) : rest <:+ ts := by
  unfold endList at passed
  split at passed <;> cases passed
  exact List.suffix_cons _ _

end Json

namespace Schema

variable {α β σ : Type} {depth : Nat}

/-! ### Single values -/

theorem yields_map {s : Schema α} {P : α → Prop} {Q : β → Prop} {f : α → β}
    (yields : Yields (s.json depth) P) (maps : ∀ x, P x → Q (f x)) : Yields ((s.map f).json depth) Q := by
  intro ts y rest valid read
  obtain ⟨⟨x, left⟩, found, same⟩ := map_ok read
  cases same
  obtain ⟨holds, left⟩ := yields _ _ _ valid found
  exact ⟨maps x holds, left⟩

theorem yields_text : Yields (text.json depth) fun _ => True := by
  intro ts x rest valid read
  simp only [text] at read
  split at read <;> cases read
  exact ⟨trivial, valid.suffix (List.suffix_cons _ _)⟩

theorem yields_flag : Yields (flag.json depth) fun _ => True := by
  intro ts x rest valid read
  simp only [flag] at read
  split at read <;> cases read
  exact ⟨trivial, valid.suffix (List.suffix_cons _ _)⟩

theorem yields_count : Yields (count.json depth) fun n => Json.Number.InRange n := by
  intro ts x rest valid read
  simp only [count] at read
  split at read
  · rename_i n _
    split at read <;> cases read
    have range : Json.Number.InRange n := valid _ List.mem_cons_self
    have same : ((n.toNat : Nat) : Int) = n := Int.toNat_of_nonneg (by assumption)
    exact ⟨same.symm ▸ range, valid.suffix (List.suffix_cons _ _)⟩
  · cases read

theorem yields_optional {s : Schema α} {P : α → Prop} (yields : Yields (s.json depth) P) :
    Yields ((optional s).json depth) fun x => ∀ y, x = some y → P y := by
  intro ts x rest valid read
  simp only [optional] at read
  split at read
  · cases read
    exact ⟨nofun, valid.suffix (List.suffix_cons _ _)⟩
  · obtain ⟨⟨y, left⟩, found, same⟩ := map_ok read
    cases same
    obtain ⟨holds, left⟩ := yields _ _ _ valid found
    exact ⟨fun z same => Option.some.inj same ▸ holds, left⟩

theorem yields_listOf {s : Schema α} {P : α → Prop} (yields : Yields (s.json depth) P) :
    Yields ((listOf s).json (depth + 1)) fun xs => ∀ x ∈ xs, P x := by
  intro ts xs rest valid read
  simp only [listOf] at read
  split at read
  · cases read
  · rename_i same
    cases same
    exact yields.items _ _ _ (valid.suffix (List.suffix_cons _ _)) read
  · cases read

theorem yields_members :
    Yields (members.json (depth + 1)) fun read => Json.Legible (depth + 1) (.obj read) := by
  intro ts x rest valid read
  simp only [members] at read
  split at read
  · cases read
  · rename_i same
    cases same
    have nothing : Json.Legible (depth + 1) (.obj []) :=
      Json.Legible.obj.mpr ⟨List.Pairwise.nil, by simp⟩
    have each := Json.yields_bindMember (Json.yields_value depth)
    exact Yields.members each nothing _ _ _ (valid.suffix (List.suffix_cons _ _)) read
  · cases read

theorem endChoice_suffix {ts rest : List Token} (passed : endChoice ts = .ok rest) : rest <:+ ts := by
  unfold endChoice at passed
  split at passed <;> cases passed
  exact (List.suffix_cons _ _).trans (List.suffix_cons _ _)

theorem yields_choice {choices : List (String × α)} :
    Yields ((choice choices).json depth) fun _ => True := by
  intro ts x rest valid read
  simp only [choice] at read
  split at read
  · obtain ⟨s, _, read⟩ := bind_ok read
    obtain ⟨y, _, same⟩ := bind_ok read
    cases same
    exact ⟨trivial, valid.suffix (List.suffix_cons _ _)⟩
  · cases read
  · obtain ⟨s, _, read⟩ := bind_ok read
    obtain ⟨y, _, read⟩ := bind_ok read
    obtain ⟨mid, colon, read⟩ := bind_ok read
    obtain ⟨left, ended, same⟩ := bind_ok read
    cases same
    have inner := (valid.suffix (List.suffix_cons _ _)).suffix (List.suffix_cons _ _)
    exact ⟨trivial, (inner.suffix (Json.colon_suffix colon)).suffix (endChoice_suffix ended)⟩
  all_goals cases read

/-! ### Records -/

namespace Field

/-- Whatever a field is read to, the record keeps a property. -/
def Keeps (P : σ → Prop) (depth : Nat) (field : Field σ) : Prop :=
  Yields (field.value.json depth) fun set => ∀ x, P x → P (set x)

end Field

theorem keeps_field {s : Schema α} {P : α → Prop} {Q : σ → Prop} {name : String} {set : α → σ → σ}
    (yields : Yields (s.json depth) P) (keeps : ∀ x record, P x → Q record → Q (set x record)) :
    (field name s set).Keeps Q depth :=
  yields_map yields fun x holds record => keeps x record holds

theorem keeps_requiredField {s : Schema α} {P : α → Prop} {Q : σ → Prop} {name : String}
    {set : α → σ → σ} (yields : Yields (s.json depth) P)
    (keeps : ∀ x record, P x → Q record → Q (set x record)) : (requiredField name s set).Keeps Q depth :=
  yields_map yields fun x holds record => keeps x record holds

namespace Record

variable {r : Record σ} {P : σ → Prop}

theorem field?_mem {name : String} {field : Field σ} (found : r.field? name = some field) :
    field ∈ r.fields :=
  List.mem_of_find?_eq_some found

theorem yields_readMember (keeps : ∀ field ∈ r.fields, field.Keeps P depth) (read : σ × List String)
    (name : String) (before : P read.1) :
    Yields (r.readMember depth read name) fun read => P read.1 := by
  intro ts x rest valid found
  unfold readMember at found
  split at found
  · rename_i field named
    split at found
    · cases found
    · obtain ⟨mid, colon, found⟩ := bind_ok found
      obtain ⟨⟨set, left⟩, here, same⟩ := bind_ok found
      cases same
      obtain ⟨holds, left⟩ := keeps field (field?_mem named) _ _ _
        (valid.suffix (Json.colon_suffix colon)) here
      exact ⟨holds read.1 before, left⟩
  · split at found
    · cases found
    · obtain ⟨mid, colon, found⟩ := bind_ok found
      obtain ⟨left, passed, same⟩ := bind_ok found
      cases same
      exact ⟨before, (valid.suffix (Json.colon_suffix colon)).suffix (Json.skipping_suffix passed)⟩

theorem yields_readItems {fields : List (Field σ)} (keeps : ∀ field ∈ fields, field.Keeps P depth)
    (read : Nat) (record : σ) (before : P record) : Yields (r.readItems depth fields read record) P := by
  induction fields generalizing read record with
  | nil =>
    intro ts x rest valid found
    obtain ⟨left, ended, same⟩ := map_ok found
    cases same
    exact ⟨before, valid.suffix (Json.endList_suffix ended)⟩
  | cons field fields ih =>
    intro ts x rest valid found
    obtain ⟨here, later⟩ := List.forall_mem_cons.mp keeps
    rw [readItems] at found
    obtain ⟨next, start, found⟩ := bind_ok found
    cases next with
    | none =>
      obtain ⟨_, _, found⟩ := bind_ok found
      obtain ⟨left, ended, same⟩ := bind_ok found
      cases same
      exact ⟨before, valid.suffix (Json.endList_suffix ended)⟩
    | some ts' =>
      obtain ⟨⟨set, mid⟩, one, found⟩ := bind_ok found
      obtain ⟨holds, left⟩ := here _ _ _ (valid.suffix (Json.nextItem_suffix start)) one
      exact ih later (read + 1) (set record) (holds record before) _ _ _ left found

/-- What a record keeps at each of its fields holds of it in the end. -/
theorem yields_schema (blank : P r.blank) (keeps : ∀ field ∈ r.fields, field.Keeps P depth) :
    Yields (r.schema.json (depth + 1)) P := by
  intro ts x rest valid found
  simp only [schema] at found
  split at found
  · cases found
  · cases found
  · rename_i same
    cases same
    exact yields_readItems keeps 0 r.blank blank _ _ _ (valid.suffix (List.suffix_cons _ _)) found
  · rename_i same
    cases same
    obtain ⟨⟨read, left⟩, inside, found⟩ := bind_ok found
    obtain ⟨record, completed, same⟩ := bind_ok found
    cases same
    have kept : Yields (Json.members (r.readMember depth) (r.blank, [])) fun read => P read.1 :=
      Yields.members (yields_readMember keeps) blank
    obtain ⟨holds, left⟩ := kept _ _ _ (valid.suffix (List.suffix_cons _ _)) inside
    unfold complete at completed
    split at completed <;> cases completed
    exact ⟨holds, left⟩
  · cases found

end Record

theorem yields_parseJson {s : Schema α} {P : α → Prop} (yields : Yields (s.json Json.maxDepth) P)
    {source : String} {x : α} (read : s.parseJson source = .ok x) : P x := by
  obtain ⟨⟨y, rest⟩, found, done⟩ := bind_ok read
  have holds := (yields _ _ _ (Json.validTokens_tokens source) found).1
  cases rest with
  | nil =>
    cases done
    exact holds
  | cons t rest => cases done

end Schema
end Relay
