import Relay.Proofs.Json.NumberText

/-!
# What readings yield

The tokens of a text have numbers that can be written, and every reading takes its tokens from the front. So
what holds of each item that is read holds of the whole list, and what each member keeps holds of the object.
-/

namespace Relay

section
variable {ε α β : Type}

theorem bind_ok {first : Except ε α} {next : α → Except ε β} {y : β} (done : first >>= next = .ok y) :
    ∃ x, first = .ok x ∧ next x = .ok y := by
  cases first with
  | error e => cases done
  | ok x => exact ⟨x, rfl, done⟩

theorem bind_error {first : Except ε α} {next : α → Except ε β} {e : ε} (failed : first >>= next = .error e) :
    first = .error e ∨ ∃ x, first = .ok x ∧ next x = .error e := by
  cases first with
  | error e' => exact .inl (congrArg _ (Except.error.inj failed))
  | ok x => exact .inr ⟨x, rfl, failed⟩

theorem map_ok {first : Except ε α} {f : α → β} {y : β} (done : first.map f = .ok y) :
    ∃ x, first = .ok x ∧ f x = y := by
  cases first with
  | error e => cases done
  | ok x => exact ⟨x, rfl, Except.ok.inj done⟩

theorem map_error {first : Except ε α} {f : α → β} {e : ε} (failed : first.map f = .error e) : first = .error e := by
  cases first with
  | error e' => exact congrArg _ (Except.error.inj failed)
  | ok x => cases failed

theorem mapError_ok {first : Except ε α} {f : ε → β} {y : α} (done : first.mapError f = .ok y) : first = .ok y := by
  cases first with
  | error e => cases done
  | ok x => exact congrArg _ (Except.ok.inj done)

end

namespace Json

/-! ### The tokens of a text -/

/-- A token as a text gives it: its number, if it has one, can be written. -/
def Token.Valid : Token → Prop
  | .num (.ok n) => n.Valid
  | _ => True

theorem valid_wordToken {t : Token} (valid : t.Valid) (word cs : List Char) :
    (wordToken t word cs).1.Valid := by
  induction word generalizing cs with
  | nil => exact valid
  | cons w word ih =>
    cases cs with
    | nil => exact trivial
    | cons c cs =>
      rw [wordToken]
      split
      · exact ih cs
      · exact trivial

theorem valid_numberToken (negative : Bool) (cs : List Char) : (numberToken negative cs).1.Valid := by
  unfold numberToken
  split
  · rename_i t rest _
    cases read : t.value with
    | error e => exact trivial
    | ok n => exact NumberText.value_valid read
  · exact trivial

theorem valid_stringToken (cs : List Char) : (stringToken cs).1.Valid := by
  unfold stringToken
  dsimp only
  split <;> exact trivial

theorem valid_token (c : Char) (cs : List Char) : (token c cs).1.Valid := by
  unfold token
  split
  case h_7 => exact valid_stringToken cs
  case h_8 | h_9 | h_10 => exact valid_wordToken (by exact trivial) _ cs
  case h_11 => exact valid_numberToken true cs
  case h_12 =>
    split
    · exact valid_numberToken false _
    · exact trivial
  all_goals exact trivial

/-- Tokens as a text gives them. -/
def ValidTokens (ts : List Token) : Prop := ∀ t ∈ ts, t.Valid

theorem validTokens_tokensFrom (fuel : Nat) (cs : List Char) : ValidTokens (tokensFrom fuel cs) := by
  induction fuel generalizing cs with
  | zero => simp [tokensFrom, ValidTokens]
  | succ fuel ih =>
    cases cs with
    | nil => simp [tokensFrom, ValidTokens]
    | cons c cs =>
      rw [tokensFrom]
      split
      · exact ih cs
      · exact List.forall_mem_cons.mpr ⟨valid_token c cs, ih _⟩

theorem validTokens_tokens (s : String) : ValidTokens (tokens s) := validTokens_tokensFrom _ _

theorem ValidTokens.suffix {ts rest : List Token} (valid : ValidTokens ts) (suffix : rest <:+ ts) :
    ValidTokens rest :=
  fun t present => valid t (suffix.subset present)

/-! ### Steps through the tokens -/

theorem nextItem_suffix {first : Bool} {ts rest : List Token}
    (next : nextItem first ts = .ok (some rest)) : rest <:+ ts := by
  unfold nextItem at next
  split at next
  · cases next
  · cases next
  · split at next
    · cases next
      exact List.suffix_refl _
    · split at next <;> cases next
      exact List.suffix_cons _ _

theorem nextKey_suffix {first : Bool} {ts rest : List Token}
    (next : nextKey first ts = .ok (some rest)) : rest <:+ ts := by
  unfold nextKey at next
  split at next
  · cases next
  · cases next
  · split at next
    · split at next <;> cases next
      exact List.suffix_refl _
    · split at next
      · cases next
      · cases next
      · split at next <;> cases next
        exact List.suffix_cons _ _
      · cases next

theorem memberName_suffix {ts rest : List Token} {name : String}
    (read : memberName ts = .ok (name, rest)) : rest <:+ ts := by
  unfold memberName at read
  split at read
  · rename_i value _
    cases value with
    | error e => cases read
    | ok name =>
      cases read
      exact List.suffix_cons _ _
  · cases read
  · cases read

theorem colon_suffix {ts rest : List Token} (read : colon ts = .ok rest) : rest <:+ ts := by
  unfold colon at read
  split at read <;> cases read
  exact List.suffix_cons _ _

/-! ### What a reading yields -/

/-- What a reading of the tokens of a text comes to, and that it leaves such tokens behind. -/
def Yields {α : Type} (reading : Reading α) (P : α → Prop) : Prop :=
  ∀ ts x rest, ValidTokens ts → reading ts = .ok (x, rest) → P x ∧ ValidTokens rest

section
variable {α : Type}

theorem Yields.itemsFrom {item : Reading α} {P : α → Prop} (one : Yields item P) (fuel : Nat)
    (first : Bool) : Yields (itemsFrom item fuel first) fun xs => ∀ x ∈ xs, P x := by
  induction fuel generalizing first with
  | zero =>
    intro ts xs rest _ read
    cases read
  | succ fuel ih =>
    intro ts xs rest valid read
    unfold Json.itemsFrom at read
    obtain ⟨next, start, read⟩ := bind_ok read
    cases next with
    | none =>
      cases read
      exact ⟨by simp, valid.suffix (List.drop_suffix _ _)⟩
    | some ts' =>
      obtain ⟨⟨x, mid⟩, here, read⟩ := bind_ok read
      obtain ⟨⟨xs', rest'⟩, there, read⟩ := bind_ok read
      cases read
      obtain ⟨holds, left⟩ := one _ _ _ (valid.suffix (nextItem_suffix start)) here
      obtain ⟨others, left⟩ := ih false _ _ _ left there
      exact ⟨List.forall_mem_cons.mpr ⟨holds, others⟩, left⟩

theorem Yields.items {item : Reading α} {P : α → Prop} (one : Yields item P) :
    Yields (items item) fun xs => ∀ x ∈ xs, P x :=
  fun ts => Yields.itemsFrom one (ts.length + 1) true ts

theorem Yields.membersFrom {member : α → String → Reading α} {P : α → Prop}
    (one : ∀ read name, P read → Yields (member read name) P) (fuel : Nat) (first : Bool) (read : α)
    (before : P read) : Yields (membersFrom member fuel first read) P := by
  induction fuel generalizing first read with
  | zero =>
    intro ts x rest _ read
    cases read
  | succ fuel ih =>
    intro ts x rest valid found
    unfold Json.membersFrom at found
    obtain ⟨next, start, found⟩ := bind_ok found
    cases next with
    | none =>
      cases found
      exact ⟨before, valid.suffix (List.drop_suffix _ _)⟩
    | some ts' =>
      obtain ⟨⟨name, mid⟩, named, found⟩ := bind_ok found
      obtain ⟨⟨read', mid'⟩, here, found⟩ := bind_ok found
      have left := (valid.suffix (nextKey_suffix start)).suffix (memberName_suffix named)
      obtain ⟨holds, left⟩ := one read name before _ _ _ left here
      exact ih false read' holds _ _ _ left found

theorem Yields.members {member : α → String → Reading α} {P : α → Prop}
    (one : ∀ read name, P read → Yields (member read name) P) {start : α} (before : P start) :
    Yields (members member start) P :=
  fun ts => Yields.membersFrom one (ts.length + 1) true start before ts

end

end Json
end Relay
