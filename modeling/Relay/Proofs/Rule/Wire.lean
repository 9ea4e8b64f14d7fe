import Relay.Proofs.Schema.Writing
import Relay.Rule.Wire

/-!
# Rules that are written and read

A rule that is read from a text is read from the text that is written of it. The flat record has each field in
one place, and a rule takes back from it the fields of its own type.
-/

namespace Relay

open Schema

namespace RuleRecord

variable {depth : Nat}

/-- What a text holds of a rule: metadata that can be written. -/
def Legible (depth : Nat) (r : RuleRecord) : Prop :=
  ∀ metadata, r.metadata = some metadata → Json.Legible depth (.obj metadata)

theorem keeps_apart {α : Type} {P : α → Prop} {name : String} {s : Schema α}
    {set : α → RuleRecord → RuleRecord} (yields : Json.Yields (s.json depth) P)
    (apart : ∀ x r, (set x r).metadata = r.metadata) : (field name s set).Keeps (Legible depth) depth := by
  refine keeps_field yields fun x r _ legible => ?_
  intro metadata found
  exact legible metadata ((apart x r).symm.trans found)

theorem yields_record : Json.Yields (record.schema.json (depth + 2)) (Legible (depth + 1)) := by
  have texts : Json.Yields ((optional text).json (depth + 1)) _ := yields_optional yields_text
  refine Record.yields_schema nofun ?_
  simp only [record, List.forall_mem_cons]
  refine ⟨keeps_apart yields_text fun _ _ => rfl, keeps_apart texts fun _ _ => rfl,
    keeps_apart texts fun _ _ => rfl, keeps_apart yields_flag fun _ _ => rfl,
    keeps_apart texts fun _ _ => rfl, keeps_apart texts fun _ _ => rfl, keeps_apart texts fun _ _ => rfl,
    keeps_apart texts fun _ _ => rfl, keeps_apart texts fun _ _ => rfl,
    keeps_field (yields_optional yields_members) fun _ _ read _ => read,
    keeps_apart (yields_optional (yields_listOf yields_text)) fun _ _ => rfl,
    keeps_apart texts fun _ _ => rfl, keeps_apart texts fun _ _ => rfl, keeps_apart texts fun _ _ => rfl,
    by simp⟩

/-- A member that is left out leaves its field as it is. -/
theorem takes_written {α : Type} {name : String} {s : Schema α} {set : Option α → RuleRecord → RuleRecord}
    {f : α → Json} {value : Option α} {fields : List (Schema.Field RuleRecord)} {rest : List (String × Json)}
    {before after : RuleRecord}
    (reads : ∀ x, value = some x → s.Reads depth (f x) x ∧ f x ≠ .null) (blank : set none before = before)
    (later : Takes depth fields rest (set value before) after) :
    Takes depth (field name (optional s) set :: fields) (written name (value.map f) ++ rest) before
      after := by
  cases value with
  | none => exact .skip rfl (blank ▸ later)
  | some x =>
    obtain ⟨read, some'⟩ := reads x rfl
    exact .take ((read.optional some').map set) later

theorem takes_text {name : String} {set : Option String → RuleRecord → RuleRecord} {value : Option String}
    {fields : List (Schema.Field RuleRecord)} {rest : List (String × Json)} {before after : RuleRecord}
    (blank : set none before = before) (later : Takes depth fields rest (set value before) after) :
    Takes depth (field name (optional text) set :: fields) (written name (value.map .str) ++ rest) before
      after :=
  takes_written (fun x _ => ⟨reads_text x, nofun⟩) blank later

theorem takes_flag {required : Bool} {fields : List (Schema.Field RuleRecord)} {rest : List (String × Json)}
    {before after : RuleRecord} (blank : before.required = false)
    (later : Takes depth fields rest { before with required := required } after) :
    Takes depth (field "Required" flag (fun x r => { r with required := x }) :: fields)
      ((if required then [("Required", .bool true)] else []) ++ rest) before after := by
  cases required with
  | false => exact .skip rfl (by rw [← blank] at later; exact later)
  | true => exact takes_field (reads_flag true) later

theorem reads_toJson {r : RuleRecord} (legible : r.Legible (depth + 1)) :
    record.schema.Reads (depth + 2) r.toJson r := by
  unfold toJson
  simp only [List.append_assoc]
  rw [← List.append_nil (written "NewFieldName" _)]
  refine Record.reads_schema (by decide) (takes_field (reads_text r.type) ?_)
  refine takes_text rfl (takes_text rfl (takes_flag rfl (takes_text rfl (takes_text rfl (takes_text rfl
    (takes_text rfl (takes_text rfl ?_)))))))
  refine takes_written (fun x found => ⟨reads_members (legible x found), nofun⟩) rfl ?_
  refine takes_written (fun x _ => ⟨reads_listOf fun path _ => reads_text path, nofun⟩) rfl ?_
  exact takes_text rfl (takes_text rfl (takes_text rfl (.nil r)))

end RuleRecord

namespace Rule

/-- What a text holds of a rule: it comes back from its record, and its metadata can be written. -/
structure Legible (depth : Nat) (rule : Rule) : Prop where
  kept : ofRecord rule.toRecord = rule
  metadata : rule.toRecord.Legible depth

theorem ofRecord_of_unknown {r : RuleRecord} {type : String} (unknown' : ofRecord r = unknown type) :
    ofRecord { type := type } = unknown type := by
  unfold ofRecord at unknown'
  split at unknown' <;> cases unknown'
  unfold ofRecord
  split <;> first | rfl | contradiction

/-- The record of a rule has all that its type makes of a record. -/
theorem ofRecord_toRecord_ofRecord (r : RuleRecord) : ofRecord (ofRecord r).toRecord = ofRecord r := by
  cases made : ofRecord r with
  | unknown type => exact ofRecord_of_unknown made
  | _ => rfl

theorem legible_ofRecord {depth : Nat} {r : RuleRecord} (legible : r.Legible (depth + 1)) :
    (ofRecord r).Legible (depth + 1) := by
  refine ⟨ofRecord_toRecord_ofRecord r, ?_⟩
  have nothing : Json.Legible (depth + 1) (.obj []) := Json.Legible.obj.mpr ⟨List.Pairwise.nil, by simp⟩
  unfold ofRecord
  split
  case h_8 =>
    intro metadata found
    cases found
    cases held : r.metadata with
    | none => exact nothing
    | some metadata => exact legible metadata held
  all_goals nofun

/-- A rule that is read from a text is legible. -/
theorem yields_schema (depth : Nat) : Json.Yields (schema.json (depth + 2)) (Legible (depth + 1)) :=
  yields_map RuleRecord.yields_record fun _ legible => legible_ofRecord legible

/-- What is written of a legible rule is read as that rule. -/
theorem reads_toJson {depth : Nat} {rule : Rule} (legible : rule.Legible (depth + 1)) :
    schema.Reads (depth + 2) rule.toJson rule := by
  have reads := (RuleRecord.reads_toJson legible.metadata).map ofRecord
  rw [legible.kept] at reads
  exact reads

end Rule
end Relay
