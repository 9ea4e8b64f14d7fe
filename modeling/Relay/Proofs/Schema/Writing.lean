import Relay.Proofs.Schema.Reading

/-!
# Schemas read what is written

A schema reads a value from the printed form of a document. A record is read from an object that holds some of
its fields in their order, each in a form that the field reads, and the required ones among them.
-/

namespace Relay.Schema

open Json (Token printed printedItems printedMembers)

variable {α β σ : Type} {depth : Nat}

/-- A schema reads a document as a value. -/
structure Reads (s : Schema α) (depth : Nat) (v : Json) (x : α) : Prop where
  numbers : v.NumbersValid
  read : ∀ rest, s.json depth (printed v ++ rest) = .ok (x, rest)

theorem Reads.parseJson {s : Schema α} {v : Json} {x : α} (reads : s.Reads Json.maxDepth v x)
    (readBack : v.NumbersReadBack) : s.parseJson v.render = .ok x := by
  have read := reads.read []
  rw [List.append_nil] at read
  rw [Schema.parseJson, Json.tokens_render v reads.numbers.readable, readBack, read]
  rfl

/-! ### Single values -/

theorem Reads.map {s : Schema α} {v : Json} {x : α} (reads : s.Reads depth v x) (f : α → β) :
    (s.map f).Reads depth v (f x) :=
  ⟨reads.numbers, fun rest => by simp only [Schema.map, reads.read rest]; rfl⟩

theorem reads_text (s : String) : text.Reads depth (.str s) s := ⟨trivial, fun _ => rfl⟩

theorem reads_flag (b : Bool) : flag.Reads depth (.bool b) b := ⟨trivial, fun _ => rfl⟩

theorem reads_count {n : Nat} (range : Json.Number.InRange n) :
    count.Reads depth (.num (.whole n)) n := by
  refine ⟨range, fun rest => ?_⟩
  have nonneg : (0 : Int) ≤ n := Int.natCast_nonneg n
  simp only [count, printed, List.singleton_append, if_pos nonneg, Int.toNat_natCast]

theorem Reads.optional {s : Schema α} {v : Json} {x : α} (reads : s.Reads depth v x) (some' : v ≠ .null) :
    (Schema.optional s).Reads depth v (some x) := by
  refine ⟨reads.numbers, fun rest => ?_⟩
  have same : (Schema.optional s).json depth (printed v ++ rest) =
      (s.json depth (printed v ++ rest)).map (Prod.map some id) := by
    cases v <;> first | exact absurd rfl some' | rfl
  rw [same, reads.read rest]
  rfl

theorem itemsFrom_printed {s : Schema α} {f : α → Json} {xs : List α}
    (each : ∀ x ∈ xs, s.Reads depth (f x) x) (first : Bool) (rest : List Token) (fuel : Nat)
    (enough : xs.length < fuel) :
    Json.itemsFrom (s.json depth) fuel first (printedItems first (xs.map f) ++ .listClose :: rest) =
      .ok (xs, rest) := by
  induction xs generalizing first fuel with
  | nil =>
    cases fuel with
    | zero => exact absurd enough (Nat.not_lt_zero _)
    | succ fuel => rfl
  | cons x xs ih =>
    cases fuel with
    | zero => exact absurd enough (Nat.not_lt_zero _)
    | succ fuel =>
      obtain ⟨here, later⟩ := List.forall_mem_cons.mp each
      have one := here.read (printedItems false (xs.map f) ++ .listClose :: rest)
      have more := ih later false fuel (Nat.lt_of_succ_lt_succ enough)
      simp only [List.map_cons, printedItems, List.append_assoc, Json.itemsFrom, Json.nextItem_printed, one,
        more, bind, Except.bind]
      rfl

theorem reads_listOf {s : Schema α} {f : α → Json} {xs : List α}
    (each : ∀ x ∈ xs, s.Reads depth (f x) x) : (listOf s).Reads (depth + 1) (.arr (xs.map f)) xs := by
  constructor
  · refine (Json.numbersValidItems_iff _).mpr fun v present => ?_
    obtain ⟨x, listed, rfl⟩ := List.mem_map.mp present
    exact (each x listed).numbers
  · intro rest
    have inside := itemsFrom_printed each true rest
      ((printedItems true (xs.map f) ++ .listClose :: rest).length + 1) (by
        have counted := Json.length_printedItems true (xs.map f)
        rw [List.length_map] at counted
        simp; omega)
    simp only [printed, List.cons_append, List.append_assoc, List.nil_append]
    exact inside

theorem reads_members {read : Json.Members Json} (legible : Json.Legible (depth + 1) (.obj read)) :
    members.Reads (depth + 1) (.obj read) read := by
  refine ⟨legible.numbers, fun rest => ?_⟩
  have whole := Json.value_printed (.obj read) legible.formed legible.shallow rest
  obtain ⟨⟨inner, left⟩, found, same⟩ := map_ok whole
  cases same
  exact found

theorem reads_choice {choices : List (String × α)} {name : String} {x : α}
    (listed : choices.lookup name = some x) : (choice choices).Reads depth (.str name) x := by
  refine ⟨trivial, fun rest => ?_⟩
  have picked : pick choices name = .ok x := by simp only [pick, listed]
  show ((pick choices name).mapError Json.ReadError.shape >>= _) = _
  rw [picked]
  rfl

/-! ### Records -/

/-- Members that a record takes, one after another, for some of its fields in order. -/
inductive Takes (depth : Nat) : List (Field σ) → List (String × Json) → σ → σ → Prop where
  | nil (record : σ) : Takes depth [] [] record record
  | skip {field : Field σ} {fields : List (Field σ)} {written : List (String × Json)} {before after : σ}
      (free : field.required = false) (later : Takes depth fields written before after) :
      Takes depth (field :: fields) written before after
  | take {field : Field σ} {fields : List (Field σ)} {v : Json} {set : σ → σ}
      {written : List (String × Json)} {before after : σ} (reads : field.value.Reads depth v set)
      (later : Takes depth fields written (set before) after) :
      Takes depth (field :: fields) ((field.name, v) :: written) before after

theorem takes_field {name : String} {s : Schema α} {set : α → σ → σ} {v : Json} {x : α}
    {fields : List (Field σ)} {written : List (String × Json)} {before after : σ} (reads : s.Reads depth v x)
    (later : Takes depth fields written (set x before) after) :
    Takes depth (field name s set :: fields) ((name, v) :: written) before after :=
  .take (reads.map set) later

theorem takes_requiredField {name : String} {s : Schema α} {set : α → σ → σ} {v : Json} {x : α}
    {fields : List (Field σ)} {written : List (String × Json)} {before after : σ} (reads : s.Reads depth v x)
    (later : Takes depth fields written (set x before) after) :
    Takes depth (requiredField name s set :: fields) ((name, v) :: written) before after :=
  .take (reads.map set) later

theorem Takes.numbers {fields : List (Field σ)} {written : List (String × Json)} {before after : σ}
    (takes : Takes depth fields written before after) : Json.NumbersValidMembers written := by
  induction takes with
  | nil => exact trivial
  | skip _ _ ih => exact ih
  | take reads _ ih => exact ⟨reads.numbers, ih⟩

namespace Record

variable {r : Record σ}

theorem field?_of_mem (distinct : (r.fields.map (·.name)).Nodup) {field : Field σ}
    (listed : field ∈ r.fields) : r.field? field.name = some field := by
  unfold field?
  cases found : r.fields.find? (·.name == field.name) with
  | none => exact absurd (List.find?_eq_none.mp found field listed) (by simp)
  | some other =>
    have named : other.name = field.name := by simpa using List.find?_some found
    have same := List.inj_on_of_nodup_map distinct (List.mem_of_find?_eq_some found) listed named
    rw [same]

/-- A member of a record is read as the field of its name reads it. -/
theorem readMember_printed (distinct : (r.fields.map (·.name)).Nodup) {field : Field σ}
    (listed : field ∈ r.fields) {v : Json} {set : σ → σ} (reads : field.value.Reads depth v set)
    (record : σ) {seen : List String} (fresh : field.name ∉ seen) (rest : List Token) :
    r.readMember depth (record, seen) field.name (.colon :: (printed v ++ rest)) =
      .ok ((set record, field.name :: seen), rest) := by
  have absent : ¬ seen.contains field.name = true := by simpa using fresh
  simp only [readMember, field?_of_mem distinct listed, if_neg absent, Json.colon, reads.read rest, bind,
    Except.bind, pure, Except.pure]

theorem fresh_cons {field : Field σ} {fields : List (Field σ)} {seen : List String}
    (other : field.name ∉ fields.map (·.name)) (fresh : ∀ later ∈ fields, later.name ∉ seen) :
    ∀ later ∈ fields, later.name ∉ field.name :: seen := by
  intro later present among
  rcases List.mem_cons.mp among with same | among
  · exact other (List.mem_map.mpr ⟨later, present, same⟩)
  · exact fresh later present among

/-- The members that a record takes are read one after another, and every required field is among
them. -/
theorem membersFrom_printed (distinct : (r.fields.map (·.name)).Nodup) {fields : List (Field σ)}
    {written : List (String × Json)} {before after : σ} (takes : Takes depth fields written before after)
    (listed : ∀ field ∈ fields, field ∈ r.fields) (apart : (fields.map (·.name)).Nodup)
    {seen : List String} (fresh : ∀ field ∈ fields, field.name ∉ seen) (first : Bool) (rest : List Token)
    (fuel : Nat) (enough : written.length < fuel) :
    ∃ seen', Json.membersFrom (r.readMember depth) fuel first (before, seen)
          (printedMembers first written ++ .mapClose :: rest) = .ok ((after, seen'), rest) ∧
      (∀ name ∈ seen, name ∈ seen') ∧
      ∀ field ∈ fields, field.required = true → field.name ∈ seen' := by
  -- The fields to come have names of their own, so none of them has been seen before its turn.
  induction takes generalizing seen first fuel with
  | nil record =>
    cases fuel with
    | zero => exact absurd enough (Nat.not_lt_zero _)
    | succ fuel =>
      refine ⟨seen, ?_, fun _ present => present, by simp⟩
      simp [printedMembers, Json.membersFrom, Json.nextKey, bind, Except.bind, pure, Except.pure]
  | skip free later ih =>
    obtain ⟨-, listed⟩ := List.forall_mem_cons.mp listed
    obtain ⟨-, fresh⟩ := List.forall_mem_cons.mp fresh
    obtain ⟨seen', read, kept, required⟩ :=
      ih listed (List.nodup_cons.mp apart).2 fresh first fuel enough
    refine ⟨seen', read, kept, List.forall_mem_cons.mpr ⟨fun needed => ?_, required⟩⟩
    rw [free] at needed
    cases needed
  | @take field fields v set written before after reads later ih =>
    cases fuel with
    | zero => exact absurd enough (Nat.not_lt_zero _)
    | succ fuel =>
      obtain ⟨here, listed⟩ := List.forall_mem_cons.mp listed
      obtain ⟨new, fresh⟩ := List.forall_mem_cons.mp fresh
      obtain ⟨other, apart⟩ := List.nodup_cons.mp apart
      obtain ⟨seen', read, kept, required⟩ :=
        ih listed apart (fresh_cons other fresh) false fuel (Nat.lt_of_succ_lt_succ enough)
      have one := readMember_printed distinct here reads before new
        (printedMembers false written ++ .mapClose :: rest)
      refine ⟨seen', ?_, fun name present => kept name (List.mem_cons_of_mem _ present),
        List.forall_mem_cons.mpr ⟨fun _ => kept _ List.mem_cons_self, required⟩⟩
      simp only [printedMembers, List.append_assoc, List.cons_append, Json.membersFrom, Json.nextKey_printed,
        Json.memberName, Except.map, one, bind, Except.bind]
      exact read

theorem complete_of_seen {seen : List String} {record : σ}
    (required : ∀ field ∈ r.fields, field.required = true → field.name ∈ seen) :
    r.complete (record, seen) = .ok record := by
  have none : r.missing seen = none := by
    unfold missing
    rw [Option.map_eq_none_iff, List.find?_eq_none]
    intro field listed needed
    have both : field.required = true ∧ field.name ∉ seen := by simpa using needed
    exact both.2 (required field listed both.1)
  unfold Record.complete
  simp only [none]

/-- A record is read from the members that it takes. -/
theorem reads_schema (distinct : (r.fields.map (·.name)).Nodup) {written : List (String × Json)}
    {record : σ} (takes : Takes depth r.fields written r.blank record) :
    r.schema.Reads (depth + 1) (.obj written) record := by
  refine ⟨takes.numbers, fun rest => ?_⟩
  have enough : written.length < (printedMembers true written ++ .mapClose :: rest).length + 1 := by
    have counted := Json.length_printedMembers true written
    simp; omega
  have fresh : ∀ field ∈ r.fields, field.name ∉ ([] : List String) := by simp
  obtain ⟨seen, read, -, required⟩ := membersFrom_printed distinct takes (fun _ listed => listed) distinct
    fresh true rest _ enough
  have inside : Json.members (r.readMember depth) (r.blank, [])
      (printedMembers true written ++ .mapClose :: rest) = .ok ((record, seen), rest) := read
  simp only [schema, printed, List.cons_append, List.append_assoc, List.nil_append, inside, bind,
    Except.bind, complete_of_seen required, Except.mapError]
  rfl

end Record

end Relay.Schema
