import Relay.Proofs.Rule.Sequence

/-!
# Required headers

Which required header a list of rules misses first, said of the headers that arrive and of the rules that
stand before the requirement. The run of the rules stops there, whatever all other rules do.
-/

namespace Relay.Rule
open Http

def Supplies (name : String) : Rule → Prop
  | addHeader (some given) (some value) =>
    isHeaderName given = true ∧ (headerValue? value.toUTF8).isSome ∧ SameName given name
  | _ => False

/-- The rule at a place requires a header that has not arrived and that no rule before it sets. -/
structure Unmet (rules : List Rule) (headers : Headers) (place : Nat) (name : String) : Prop where
  required : rules[place]? = some (.validateHeader (some name) true)
  absent : ¬ ∃ field ∈ headers.entries, SameName field.1.text name
  unsupplied : ∀ earlier < place, ∀ rule, rules[earlier]? = some rule → ¬ rule.Supplies name

structure FirstUnmet (rules : List Rule) (headers : Headers) (place : Nat) (name : String) : Prop where
  unmet : Unmet rules headers place name
  first : ∀ earlier < place, ∀ other, ¬ Unmet rules headers earlier other

theorem FirstUnmet.unique {rules : List Rule} {headers : Headers} {place place' : Nat}
    {name name' : String} (one : FirstUnmet rules headers place name)
    (other : FirstUnmet rules headers place' name') : name = name' := by
  rcases Nat.lt_trichotomy place place' with before | rfl | after
  · exact absurd one.unmet (other.first place before name)
  · have same := one.unmet.required.symm.trans other.unmet.required
    injection same with same
    injection same with same
    exact Option.some.inj same
  · exact absurd other.unmet (one.first place' after name')

/-! ### Headers that rules set -/

theorem supplies_iff {rule : Rule} {name : String} :
    rule.Supplies name ↔ ∃ field, rule.addedHeader = some field ∧ SameName field.1.text name := by
  cases rule with
  | addHeader header value =>
    cases header with
    | none => simp [Supplies, addedHeader]
    | some given =>
      cases value with
      | none => simp [Supplies, addedHeader]
      | some value =>
        simp only [Supplies, addedHeader, HeaderName.parse]
        by_cases valid : isHeaderName given
        · cases headerValue? value.toUTF8 <;> simp [valid, SameName]
        · simp [valid]
  | _ => simp [Supplies, addedHeader]

theorem has_insert (headers : Headers) (header : HeaderName) (value : HeaderValue) (name : String) :
    (headers.insert header value).has name = true ↔
      SameName header.text name ∨ headers.has name = true := by
  rw [← HeaderName.parse_eq_some]
  cases named : HeaderName.parse name with
  | none => simp [Headers.has, named]
  | some asked => simp [Headers.has, named, Headers.contains_insert, eq_comm (a := asked)]

theorem has_withAdded (rule : Rule) (headers : Headers) (name : String) :
    (withAdded [rule] headers).has name = true ↔ rule.Supplies name ∨ headers.has name = true := by
  rw [supplies_iff]
  cases added : rule.addedHeader with
  | none => simp [withAdded, added]
  | some field => simp [withAdded, added, has_insert]

/-! ### The requirement along the list -/

theorem unmet_zero {rule : Rule} {rules : List Rule} {headers : Headers} {name : String} :
    Unmet (rule :: rules) headers 0 name ↔
      rule = .validateHeader (some name) true ∧ headers.has name = false := by
  constructor
  · intro unmet
    refine ⟨Option.some.inj unmet.required, ?_⟩
    rw [← Bool.not_eq_true, Headers.has_iff]
    exact unmet.absent
  · rintro ⟨rfl, absent⟩
    rw [← Bool.not_eq_true, Headers.has_iff] at absent
    exact ⟨rfl, absent, fun earlier before => absurd before (Nat.not_lt_zero earlier)⟩

/-- Past its first rule, a list misses what the rest of it misses on the headers that the rule leaves. -/
theorem unmet_succ {rule : Rule} {rules : List Rule} {headers : Headers} {place : Nat} {name : String} :
    Unmet (rule :: rules) headers (place + 1) name ↔
      Unmet rules (withAdded [rule] headers) place name := by
  constructor
  · intro unmet
    refine ⟨unmet.required, ?_, fun earlier before other stands => ?_⟩
    · rw [← Headers.has_iff, has_withAdded, Headers.has_iff]
      rintro (supplied | present)
      · exact unmet.unsupplied 0 (Nat.succ_pos place) rule rfl supplied
      · exact unmet.absent present
    · exact unmet.unsupplied (earlier + 1) (Nat.succ_lt_succ before) other stands
  · intro unmet
    have absent := unmet.absent
    rw [← Headers.has_iff, has_withAdded, Headers.has_iff, not_or] at absent
    refine ⟨unmet.required, absent.2, fun earlier before other stands => ?_⟩
    cases earlier with
    | zero =>
      obtain rfl := Option.some.inj stands
      exact absent.1
    | succ earlier => exact unmet.unsupplied earlier (Nat.lt_of_succ_lt_succ before) other stands

theorem firstUnmet_succ {rule : Rule} {rules : List Rule} {headers : Headers} {place : Nat}
    {name : String} (met : ∀ other, ¬ Unmet (rule :: rules) headers 0 other)
    (later : FirstUnmet rules (withAdded [rule] headers) place name) :
    FirstUnmet (rule :: rules) headers (place + 1) name := by
  refine ⟨unmet_succ.mpr later.unmet, fun earlier before other unmet => ?_⟩
  cases earlier with
  | zero => exact met other unmet
  | succ earlier => exact later.first earlier (Nat.lt_of_succ_lt_succ before) other (unmet_succ.mp unmet)

/-! ### The run of the rules -/

theorem fatalError_of_unmet {rule : Rule} {rules : List Rule} {draft : RequestDraft} {name : String}
    (unmet : Unmet (rule :: rules) draft.headers 0 name) :
    fatalError (rule :: rules) draft = some (.missingHeader name) := by
  obtain ⟨required, absent⟩ := unmet_zero.mp unmet
  obtain ⟨failed, fatal⟩ := onRequest_fatal_iff.mpr ⟨name, required, absent, rfl⟩
  rw [fatalError_cons, failed]
  exact if_pos fatal

theorem fatalError_of_met {rule : Rule} {rules : List Rule} {draft : RequestDraft}
    (met : ∀ name, ¬ Unmet (rule :: rules) draft.headers 0 name) :
    fatalError (rule :: rules) draft = fatalError rules (rule.onRequest.on draft).2 := by
  rw [fatalError_cons]
  split
  · rfl
  · rename_i error failed
    have recoverable : ¬ error.isFatal = true := by
      intro fatal
      obtain ⟨name, required, absent, -⟩ := onRequest_fatal_iff.mp ⟨failed, fatal⟩
      exact met name (unmet_zero.mpr ⟨required, absent⟩)
    rw [if_neg recoverable]

theorem fatalError_eq_none_iff {rules : List Rule} {draft : RequestDraft} :
    fatalError rules draft = none ↔ ∀ place name, ¬ Unmet rules draft.headers place name := by
  induction rules generalizing draft with
  | nil => exact ⟨fun _ place name unmet => by simpa using unmet.required, fun _ => rfl⟩
  | cons rule rules ih =>
    by_cases met : ∀ name, ¬ Unmet (rule :: rules) draft.headers 0 name
    · rw [fatalError_of_met met, ih, headers_onRequest]
      refine ⟨fun passed place name unmet => ?_, fun passed place name unmet => ?_⟩
      · cases place with
        | zero => exact met name unmet
        | succ place => exact passed place name (unmet_succ.mp unmet)
      · exact passed (place + 1) name (unmet_succ.mpr unmet)
    · simp only [Classical.not_forall, Classical.not_not] at met
      obtain ⟨name, unmet⟩ := met
      rw [fatalError_of_unmet unmet]
      exact ⟨nofun, fun passed => absurd unmet (passed 0 name)⟩

/-- The error that ends a run names the header of the first requirement that is not met. -/
theorem firstUnmet_of_fatalError {rules : List Rule} {draft : RequestDraft} {error : RuleError}
    (ended : fatalError rules draft = some error) :
    ∃ place name, FirstUnmet rules draft.headers place name ∧ error = .missingHeader name := by
  induction rules generalizing draft with
  | nil => cases ended
  | cons rule rules ih =>
    by_cases met : ∀ name, ¬ Unmet (rule :: rules) draft.headers 0 name
    · rw [fatalError_of_met met] at ended
      obtain ⟨place, name, later, same⟩ := ih ended
      rw [headers_onRequest] at later
      exact ⟨place + 1, name, firstUnmet_succ met later, same⟩
    · simp only [Classical.not_forall, Classical.not_not] at met
      obtain ⟨name, unmet⟩ := met
      rw [fatalError_of_unmet unmet] at ended
      exact ⟨0, name, ⟨unmet, fun earlier before => absurd before (Nat.not_lt_zero earlier)⟩,
        (Option.some.inj ended).symm⟩

end Relay.Rule
