import Relay.Http.Body
import Relay.Json.Edit

/-!
# Blank texts

A text of ASCII white space alone is no document. An edit of it cannot be made, so it hands back the text.
-/

namespace Relay

namespace Text

/-- A character whose bytes are all ASCII is its only byte. -/
theorem utf8EncodeChar_of_ascii {c : Char} (low : ∀ b ∈ String.utf8EncodeChar c, b.toNat < 128) :
    c.toNat < 128 ∧ String.utf8EncodeChar c = [UInt8.ofNat c.toNat] := by
  have first : c.val.toNat ≤ 0x7f := by
    apply Classical.byContradiction
    intro high
    unfold String.utf8EncodeChar at low
    simp only [high, if_false] at low
    -- the first byte of a longer encoding is 0xC0 at least
    split at low
    · have lead := low _ List.mem_cons_self
      simp only [UInt8.toNat_ofNat'] at lead
      omega
    · split at low <;>
      · have lead := low _ List.mem_cons_self
        simp only [UInt8.toNat_ofNat'] at lead
        omega
  refine ⟨Nat.lt_succ_of_le first, ?_⟩
  unfold String.utf8EncodeChar
  exact if_pos first

theorem mem_utf8Bytes {s : String} {c : Char} (present : c ∈ s.toList) {b : UInt8}
    (byte : b ∈ String.utf8EncodeChar c) : b ∈ s.toUTF8.data.toList := by
  have bytes : s.toUTF8 = (s.toList.flatMap String.utf8EncodeChar).toByteArray :=
    String.utf8Encode_toList.symm
  rw [bytes, List.toList_data_toByteArray]
  exact List.mem_flatMap.mpr ⟨c, present, byte⟩

end Text

namespace Json
open Http

def isBlankChar (c : Char) : Bool := isSpace c || c = '\x0c'

theorem isBlankByte_cases {b : UInt8} (blank : Body.isBlankByte b = true) :
    b.toNat = 32 ∨ b.toNat = 9 ∨ b.toNat = 10 ∨ b.toNat = 12 ∨ b.toNat = 13 := by
  simp only [Body.isBlankByte, Bool.or_eq_true, beq_iff_eq] at blank
  rcases blank with (((rfl | rfl) | rfl) | rfl) | rfl <;> decide

theorem isBlankChar_of_isBlank {body : Body} {text : String} (read : body.text? = some text)
    (blank : body.isBlank = true) : ∀ c ∈ text.toList, isBlankChar c = true := by
  intro c present
  have bytes : text.toUTF8 = body.bytes := Text.ofBytes?_eq_some.mp read
  have each : ∀ b ∈ String.utf8EncodeChar c, Body.isBlankByte b = true := fun b byte =>
    List.all_eq_true.mp blank b (bytes ▸ Text.mem_utf8Bytes present byte)
  obtain ⟨low, single⟩ := Text.utf8EncodeChar_of_ascii fun b byte => by
    have values := isBlankByte_cases (each b byte)
    omega
  have only := isBlankByte_cases (each (UInt8.ofNat c.toNat) (by rw [single]; exact List.mem_cons_self))
  rw [UInt8.toNat_ofNat', Nat.mod_eq_of_lt (by omega)] at only
  have same : Char.ofNat c.toNat = c := Char.ofNat_toNat c
  rcases only with code | code | code | code | code <;>
    (rw [code] at same; subst same; decide)

theorem tokensFrom_blank (fuel : Nat) {cs : List Char} (blank : ∀ c ∈ cs, isBlankChar c = true) :
    tokensFrom fuel cs = [] ∨ ∃ rest, tokensFrom fuel cs = .stray :: rest := by
  induction fuel generalizing cs with
  | zero => exact .inl rfl
  | succ fuel ih =>
    cases cs with
    | nil => exact .inl rfl
    | cons c cs =>
      rw [tokensFrom]
      by_cases space : isSpace c = true
      · rw [if_pos space]
        exact ih fun other present => blank other (List.mem_cons_of_mem _ present)
      · have feed : c = '\x0c' := by simpa [isBlankChar, space] using blank c List.mem_cons_self
        subst feed
        exact .inr ⟨_, rfl⟩

theorem parse_blank {text : String} (blank : ∀ c ∈ text.toList, isBlankChar c = true) :
    ∃ error, parse text = .error error := by
  unfold parse tokens
  rcases tokensFrom_blank text.toList.length blank with none | ⟨rest, some⟩
  · rw [none]
    exact ⟨_, rfl⟩
  · rw [some]
    exact ⟨_, rfl⟩

theorem apply_blank (edit : Edit) {body : Body} {text : String} (read : body.text? = some text)
    (blank : body.isBlank = true) : edit.apply text = text := by
  obtain ⟨error, failed⟩ := parse_blank (isBlankChar_of_isBlank read blank)
  unfold Edit.apply Edit.attempt
  rw [failed]
  rfl

end Json
end Relay
