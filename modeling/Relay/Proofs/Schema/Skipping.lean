import Relay.Proofs.Schema.Reading
import Relay.Settings.Wire

/-!
# What is read can be passed over

A value that a schema reads could have been passed over, with the same tokens left behind. So where the members
of an object start and end does not depend on what is made of them.

Passing over keeps a stack of open lists and objects. A value that is passed over with nothing open is passed
over in the same way inside of lists and objects (`run_append`), and then it is their turn to go on.
-/

namespace Relay

open Json (Token ReadError Reading)

namespace Json

/-! ### Passing over inside of open lists and objects -/

namespace Skipping

/-- How a run goes on behind a value. -/
def resume (frames : List Frame) (rest : List Token) : Except ReadError (List Token) :=
  match frames with
  | [] => .ok rest
  | frames => Skipping.run .next frames rest

variable {mode mode' : Skipping} {inner inner' outer frames : List Frame} {t : Token} {ts rest : List Token}

/-- Something is open, or a value is about to start. -/
def Inside (mode : Skipping) (frames : List Frame) : Prop := frames ≠ [] ∨ mode = .value

theorem start_append (started : start inner t = .ok (mode', inner')) :
    start (inner ++ outer) t = .ok (mode', inner' ++ outer) ∧ (mode' ≠ .next → inner' ≠ []) := by
  cases t <;> cases started <;> exact ⟨rfl, by simp⟩

theorem name_append (named : name inner t = .ok (mode', inner')) :
    name (inner ++ outer) t = .ok (mode', inner' ++ outer) ∧ inner' = inner := by
  cases t <;> cases named
  exact ⟨rfl, rfl⟩

theorem step_firstItem (other : t ≠ .listClose) : step frames .firstItem t = start frames t := by
  cases t <;> first | rfl | exact absurd rfl other

theorem step_firstKey (other : t ≠ .mapClose) : step frames .firstKey t = name frames t := by
  cases t <;> first | rfl | exact absurd rfl other

/-- What is open further out makes no difference to a step. -/
theorem step_append (outer : List Frame) (stepped : mode.step inner t = .ok (mode', inner'))
    (inside : mode.Inside inner) :
    mode.step (inner ++ outer) t = .ok (mode', inner' ++ outer) ∧ (mode' ≠ .next → inner' ≠ []) := by
  cases mode with
  | value => exact start_append stepped
  | firstItem =>
    obtain ⟨frame, frames, rfl⟩ := List.exists_cons_of_ne_nil (inside.resolve_right nofun)
    by_cases closes : t = .listClose
    · subst closes
      cases stepped
      exact ⟨rfl, by simp⟩
    · rw [step_firstItem closes] at stepped ⊢
      exact start_append stepped
  | firstKey =>
    have opened := inside.resolve_right nofun
    obtain ⟨frame, frames, rfl⟩ := List.exists_cons_of_ne_nil opened
    by_cases closes : t = .mapClose
    · subst closes
      cases stepped
      exact ⟨rfl, by simp⟩
    · rw [step_firstKey closes] at stepped ⊢
      obtain ⟨named, rfl⟩ := name_append stepped
      exact ⟨named, fun _ => opened⟩
  | key =>
    obtain ⟨named, rfl⟩ := name_append stepped
    exact ⟨named, fun _ => inside.resolve_right nofun⟩
  | colon =>
    cases t <;> cases stepped
    exact ⟨rfl, fun _ => inside.resolve_right nofun⟩
  | next =>
    obtain ⟨frame, frames, rfl⟩ := List.exists_cons_of_ne_nil (inside.resolve_right nofun)
    cases frame <;> cases t <;> cases stepped <;> exact ⟨rfl, by simp⟩

theorem run_cons (stepped : mode.step frames t = .ok (mode', inner)) (opened : inner ≠ []) :
    mode.run frames (t :: ts) = mode'.run inner ts := by
  obtain ⟨frame, frames, rfl⟩ := List.exists_cons_of_ne_nil opened
  rw [run, stepped]
  cases mode' <;> rfl

/-- What is passed over with nothing further out is passed over inside of anything. -/
theorem run_append (outer : List Frame) (passed : mode.run inner ts = .ok rest) (inside : mode.Inside inner) :
    mode.run (inner ++ outer) ts = resume outer rest := by
  induction ts generalizing mode inner with
  | nil => cases passed
  | cons t ts ih =>
    rw [run] at passed
    split at passed
    · cases passed
    · rename_i stepped
      cases passed
      rw [run, (step_append outer stepped inside).1]
      cases outer <;> rfl
    · rename_i mode' inner' more stepped
      obtain ⟨stepped, opened⟩ := step_append outer stepped inside
      have opened' : inner' ≠ [] := by
        by_cases next : mode' = .next
        · rintro rfl
          exact more next rfl
        · exact opened next
      rw [run_cons stepped (by simp [opened'])]
      exact ih passed (.inl opened')

/-- Where a run stands in a list before its next item. -/
def beforeItem (first : Bool) : Skipping := if first then .firstItem else .next

/-- Where a run stands in an object before its next key. -/
def beforeKey (first : Bool) : Skipping := if first then .firstKey else .next

end Skipping

open Skipping

variable {α β : Type} {first : Bool} {ts ts' rest : List Token}

theorem run_nextItem (next : nextItem first ts = .ok (some ts')) :
    (beforeItem first).run [.list] ts = Skipping.run .value [.list] ts' := by
  unfold nextItem at next
  split at next
  · cases next
  · cases next
  · rename_i t rest other
    split at next
    · cases next
      subst first
      simp only [beforeItem, if_pos, run, step_firstItem other]
      rfl
    · rename_i later
      rw [beforeItem, if_neg later]
      split at next <;> cases next
      rfl

theorem endList_of_nextItem (next : nextItem first ts = .ok none) : endList ts = .ok (ts.drop 1) := by
  unfold nextItem at next
  split at next
  · cases next
  · rfl
  · split at next
    · cases next
    · split at next <;> cases next

theorem run_endList (ended : endList ts = .ok rest) : (beforeItem first).run [.list] ts = .ok rest := by
  unfold endList at ended
  split at ended <;> cases ended
  cases first <;> rfl

theorem run_nextKey (next : nextKey first ts = .ok (some ts')) :
    (beforeKey first).run [.map] ts = Skipping.run .key [.map] ts' := by
  unfold nextKey at next
  split at next
  · cases next
  · cases next
  · rename_i t rest other
    split at next
    · split at next <;> cases next
      subst first
      simp only [beforeKey, if_pos, run, step_firstKey other]
      rfl
    · rename_i later
      rw [beforeKey, if_neg later]
      split at next
      · cases next
      · cases next
      · split at next <;> cases next
        rfl
      · cases next

theorem run_lastKey (next : nextKey first ts = .ok none) :
    (beforeKey first).run [.map] ts = .ok (ts.drop 1) := by
  unfold nextKey at next
  split at next
  · cases next
  · cases first <;> rfl
  · split at next
    · split at next <;> cases next
    · split at next
      · cases next
      · cases next
      · split at next <;> cases next
      · cases next

theorem run_memberName {name : String} (named : memberName ts = .ok (name, rest)) :
    Skipping.run .key [.map] ts = Skipping.run .colon [.map] rest := by
  unfold memberName at named
  split at named
  · obtain ⟨name, -, same⟩ := map_ok named
    cases same
    rfl
  · cases named
  · cases named

theorem run_colon (passed : colon ts = .ok rest) :
    Skipping.run .colon [.map] ts = Skipping.run .value [.map] rest := by
  unfold colon at passed
  split at passed <;> cases passed
  rfl

/-! ### Readings of values -/

/-- What is read can be passed over. -/
def Skips (reading : Reading α) : Prop :=
  ∀ ts x rest, reading ts = .ok (x, rest) → skip ts = .ok rest

/-- What is read behind the name of a member can be passed over: a colon and a value. -/
def SkipsMember (reading : Reading α) : Prop :=
  ∀ ts x rest, reading ts = .ok (x, rest) → ∃ mid, colon ts = .ok mid ∧ skip mid = .ok rest

theorem Skips.itemsFrom {item : Reading α} (one : Skips item) (first : Bool) {fuel : Nat} {xs : List α}
    (read : itemsFrom item fuel first ts = .ok (xs, rest)) : (beforeItem first).run [.list] ts = .ok rest := by
  induction fuel generalizing first ts xs with
  | zero => cases read
  | succ fuel ih =>
    rw [Json.itemsFrom] at read
    obtain ⟨next, start, read⟩ := bind_ok read
    cases next with
    | none =>
      cases read
      exact run_endList (endList_of_nextItem start)
    | some ts' =>
      obtain ⟨⟨x, mid⟩, here, read⟩ := bind_ok read
      obtain ⟨⟨xs, last⟩, there, read⟩ := bind_ok read
      cases read
      rw [run_nextItem start, ← List.nil_append [Frame.list], run_append _ (one _ _ _ here) (.inr rfl)]
      exact ih false there

theorem Skips.items {item : Reading α} (one : Skips item) {xs : List α} (read : items item ts = .ok (xs, rest)) :
    skip (.listOpen :: ts) = .ok rest :=
  one.itemsFrom true read

theorem Skips.membersFrom {member : α → String → Reading α} (one : ∀ read name, SkipsMember (member read name))
    (first : Bool) {fuel : Nat} {before after : α}
    (read : membersFrom member fuel first before ts = .ok (after, rest)) :
    (beforeKey first).run [.map] ts = .ok rest := by
  induction fuel generalizing first before ts with
  | zero => cases read
  | succ fuel ih =>
    rw [Json.membersFrom] at read
    obtain ⟨next, start, read⟩ := bind_ok read
    cases next with
    | none =>
      cases read
      exact run_lastKey start
    | some ts' =>
      obtain ⟨⟨name, mid⟩, named, read⟩ := bind_ok read
      obtain ⟨⟨read', last⟩, here, read⟩ := bind_ok read
      obtain ⟨inner, opened, passed⟩ := one _ _ _ _ _ here
      rw [run_nextKey start, run_memberName named, run_colon opened, ← List.nil_append [Frame.map],
        run_append _ passed (.inr rfl)]
      exact ih false read

theorem Skips.members {member : α → String → Reading α} (one : ∀ read name, SkipsMember (member read name))
    {before after : α} (read : members member before ts = .ok (after, rest)) :
    skip (.mapOpen :: ts) = .ok rest :=
  Skips.membersFrom one true read

theorem skips_bindMember {value : Reading Json} (one : Skips value) (read : Members Json) (name : String) :
    SkipsMember (bindMember value read name) := by
  intro ts x rest found
  obtain ⟨mid, opened, found⟩ := bind_ok found
  obtain ⟨⟨v, left⟩, here, same⟩ := bind_ok found
  cases same
  exact ⟨mid, opened, one _ _ _ here⟩

theorem skips_value (depth : Nat) : Skips (value depth) := by
  induction depth using Nat.strongRecOn with
  | ind depth ih =>
    intro ts v rest read
    unfold value at read
    split at read
    case h_2 | h_3 =>
      cases read
      rfl
    case h_4 | h_5 =>
      obtain ⟨_, -, same⟩ := map_ok read
      cases same
      rfl
    case h_10 depth inner =>
      obtain ⟨⟨xs, left⟩, found, same⟩ := map_ok read
      cases same
      exact (ih depth (Nat.lt_succ_self depth)).items found
    case h_11 depth inner =>
      obtain ⟨⟨members, left⟩, found, same⟩ := map_ok read
      cases same
      exact Skips.members (skips_bindMember (ih depth (Nat.lt_succ_self depth))) found
    all_goals cases read

end Json

namespace Schema

open Json (Skips SkipsMember)

variable {α β σ : Type} {depth : Nat}

/-! ### Values by schemas -/

theorem skips_map {s : Schema α} (skips : Skips (s.json depth)) (f : α → β) : Skips ((s.map f).json depth) := by
  intro ts y rest read
  obtain ⟨⟨x, left⟩, found, same⟩ := map_ok read
  cases same
  exact skips _ _ _ found

theorem skips_text : Skips (text.json depth) := by
  intro ts x rest read
  simp only [text] at read
  split at read <;> cases read
  rfl

theorem skips_flag : Skips (flag.json depth) := by
  intro ts x rest read
  simp only [flag] at read
  split at read <;> cases read
  rfl

theorem skips_count : Skips (count.json depth) := by
  intro ts x rest read
  simp only [count] at read
  split at read
  · split at read <;> cases read
    rfl
  · cases read

theorem skips_optional {s : Schema α} (skips : Skips (s.json depth)) : Skips ((optional s).json depth) := by
  intro ts x rest read
  simp only [optional] at read
  split at read
  · cases read
    rfl
  · obtain ⟨⟨y, left⟩, found, same⟩ := map_ok read
    cases same
    exact skips _ _ _ found

theorem skips_listOf {s : Schema α} (skips : ∀ depth, Skips (s.json depth)) : Skips ((listOf s).json depth) := by
  intro ts xs rest read
  simp only [listOf] at read
  split at read
  · cases read
  · exact (skips _).items read
  · cases read

theorem skips_members : Skips (members.json depth) := by
  intro ts xs rest read
  simp only [members] at read
  split at read
  · cases read
  · exact Skips.members (Json.skips_bindMember (Json.skips_value _)) read
  · cases read

theorem skips_choice {choices : List (String × α)} : Skips ((choice choices).json depth) := by
  intro ts x rest read
  simp only [choice] at read
  split at read
  · obtain ⟨s, -, read⟩ := bind_ok read
    obtain ⟨y, -, same⟩ := bind_ok read
    cases same
    rfl
  · cases read
  · obtain ⟨s, -, read⟩ := bind_ok read
    obtain ⟨y, -, read⟩ := bind_ok read
    obtain ⟨mid, opened, read⟩ := bind_ok read
    obtain ⟨left, ended, same⟩ := bind_ok read
    cases same
    refine (Json.run_colon opened).trans ?_
    unfold endChoice at ended
    split at ended <;> cases ended
    rfl
  all_goals cases read

/-! ### Records -/

/-- Whatever a field reads can be passed over. -/
def Field.Skips (depth : Nat) (field : Field σ) : Prop := Json.Skips (field.value.json depth)

theorem skips_field {s : Schema α} (skips : Skips (s.json depth)) (name : String) (set : α → σ → σ) :
    (field name s set).Skips depth :=
  skips_map skips set

theorem skips_requiredField {s : Schema α} (skips : Skips (s.json depth)) (name : String) (set : α → σ → σ) :
    (requiredField name s set).Skips depth :=
  skips_map skips set

namespace Record

variable {r : Record σ}

theorem skips_readMember (skips : ∀ field ∈ r.fields, field.Skips depth) (read : σ × List String)
    (name : String) : SkipsMember (r.readMember depth read name) := by
  intro ts x rest found
  unfold readMember at found
  split at found
  · rename_i field named
    split at found
    · cases found
    · obtain ⟨mid, opened, found⟩ := bind_ok found
      obtain ⟨⟨set, left⟩, here, same⟩ := bind_ok found
      cases same
      exact ⟨mid, opened, skips field (field?_mem named) _ _ _ here⟩
  · split at found
    · cases found
    · obtain ⟨mid, opened, found⟩ := bind_ok found
      obtain ⟨left, passed, same⟩ := bind_ok found
      cases same
      exact ⟨mid, opened, passed⟩

theorem skips_readItems {fields : List (Field σ)} (skips : ∀ field ∈ fields, field.Skips depth)
    {read : Nat} {before after : σ} {ts rest : List Token}
    (found : r.readItems depth fields read before ts = .ok (after, rest)) :
    (Json.Skipping.beforeItem (read == 0)).run [.list] ts = .ok rest := by
  induction fields generalizing read before ts with
  | nil =>
    obtain ⟨left, ended, same⟩ := map_ok found
    cases same
    exact Json.run_endList ended
  | cons field fields ih =>
    obtain ⟨here, later⟩ := List.forall_mem_cons.mp skips
    rw [readItems] at found
    obtain ⟨next, start, found⟩ := bind_ok found
    cases next with
    | none =>
      obtain ⟨_, _, found⟩ := bind_ok found
      obtain ⟨left, ended, same⟩ := bind_ok found
      cases same
      exact Json.run_endList ended
    | some ts' =>
      obtain ⟨⟨set, mid⟩, one, found⟩ := bind_ok found
      rw [Json.run_nextItem start, ← List.nil_append [Json.Frame.list],
        Json.Skipping.run_append _ (here _ _ _ one) (.inr rfl)]
      exact ih later found

theorem skips_schema (skips : ∀ depth, ∀ field ∈ r.fields, field.Skips depth) :
    Skips (r.schema.json depth) := by
  intro ts x rest found
  simp only [schema] at found
  split at found
  · cases found
  · cases found
  · exact skips_readItems (skips _) found
  · obtain ⟨⟨read, left⟩, inside, found⟩ := bind_ok found
    obtain ⟨record, completed, same⟩ := bind_ok found
    cases same
    exact Skips.members (skips_readMember (skips _)) inside
  · cases found

end Record
end Schema

/-! ### Settings -/

open Schema

theorem RuleRecord.skips_fields (depth : Nat) : ∀ field ∈ RuleRecord.record.fields, field.Skips depth := by
  have texts : Json.Skips ((optional text).json depth) := skips_optional skips_text
  simp only [record, List.forall_mem_cons]
  exact ⟨skips_field skips_text _ _, skips_field texts _ _, skips_field texts _ _, skips_field skips_flag _ _,
    skips_field texts _ _, skips_field texts _ _, skips_field texts _ _, skips_field texts _ _,
    skips_field texts _ _, skips_field (skips_optional skips_members) _ _,
    skips_field (skips_optional (skips_listOf fun _ => skips_text)) _ _, skips_field texts _ _,
    skips_field texts _ _, skips_field texts _ _, by simp⟩

theorem Rule.skips_schema (depth : Nat) : Json.Skips (Rule.schema.json depth) :=
  skips_map (Record.skips_schema RuleRecord.skips_fields) ofRecord

theorem Route.skips_fields (depth : Nat) : ∀ field ∈ Route.record.fields, field.Skips depth := by
  have rules : Json.Skips ((listOf Rule.schema).json depth) := skips_listOf Rule.skips_schema
  simp only [record, List.forall_mem_cons]
  exact ⟨skips_requiredField skips_text _ _, skips_field skips_text _ _, skips_requiredField skips_text _ _,
    skips_field skips_text _ _, skips_field skips_choice _ _, skips_field rules _ _, skips_field rules _ _, by simp⟩

theorem GatewaySettings.skips_fields (depth : Nat) :
    ∀ field ∈ GatewaySettings.record.fields, field.Skips depth := by
  simp only [record, List.forall_mem_cons]
  exact ⟨skips_field skips_flag _ _, skips_field skips_flag _ _, skips_field skips_count _ _, by simp⟩

theorem LogSection.skips_fields (depth : Nat) : ∀ field ∈ LogSection.record.fields, field.Skips depth := by
  simp only [record, List.forall_mem_cons]
  exact ⟨skips_field skips_text _ _, skips_field skips_choice _ _, skips_field skips_flag _ _,
    skips_field skips_flag _ _, by simp⟩

theorem Settings.skips_fields (depth : Nat) : ∀ field ∈ Settings.record.fields, field.Skips depth := by
  simp only [record, List.forall_mem_cons]
  exact ⟨skips_field (Record.skips_schema GatewaySettings.skips_fields) _ _,
    skips_field (Record.skips_schema LogSection.skips_fields) _ _,
    skips_field (skips_listOf fun _ => Record.skips_schema Route.skips_fields) _ _, by simp⟩

end Relay
