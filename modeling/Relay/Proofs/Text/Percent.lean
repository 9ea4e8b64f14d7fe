import Relay.Text.Percent

/-!
# Percent encoding is undone by decoding

The encoding of a text consists of unreserved characters and of groups of a percent sign and two digits, and
decoding takes each group for the byte that it stands for.
-/

namespace Relay.Text

/-- A character that an encoded text may hold. -/
def IsEncodedChar (c : Char) : Prop := c.isAlphanum ∨ c ∈ ['-', '_', '.', '~', '%']

instance (c : Char) : Decidable (IsEncodedChar c) := inferInstanceAs (Decidable (_ ∨ _))

def asciiByte (c : Char) : UInt8 := UInt8.ofNat c.toNat

theorem IsEncodedChar.ascii {c : Char} (encoded : IsEncodedChar c) : c.toNat < 128 := by
  rcases encoded with alphanumeric | mark
  · unfold Char.isAlphanum Char.isAlpha Char.isUpper Char.isLower Char.isDigit at alphanumeric
    simp only [Bool.or_eq_true, Bool.and_eq_true, decide_eq_true_eq, UInt32.le_iff_toNat_le] at alphanumeric
    simp at alphanumeric
    omega
  · simp only [List.mem_cons, List.not_mem_nil, or_false] at mark
    rcases mark with rfl | rfl | rfl | rfl | rfl <;> decide

theorem toNat_ofNat_ascii {n : Nat} (ascii : n < 128) : (Char.ofNat n).toNat = n := by
  have valid : n.isValidChar := .inl (by omega)
  rw [Char.ofNat, dif_pos valid]
  rfl

/-! ### Bytes of a text -/

theorem utf8Bytes_eq_flatMap (s : String) : utf8Bytes s = s.toList.flatMap String.utf8EncodeChar := by
  have bytes : s.toUTF8 = (s.toList.flatMap String.utf8EncodeChar).toByteArray :=
    String.utf8Encode_toList.symm
  rw [utf8Bytes, bytes, List.toList_data_toByteArray]

theorem utf8EncodeChar_ascii {c : Char} (ascii : c.toNat < 128) :
    String.utf8EncodeChar c = [asciiByte c] := by
  unfold String.utf8EncodeChar
  exact if_pos (Nat.le_of_lt_succ ascii)

theorem utf8Bytes_ofList_ascii {cs : List Char} (ascii : ∀ c ∈ cs, c.toNat < 128) :
    utf8Bytes (String.ofList cs) = cs.map asciiByte := by
  rw [utf8Bytes_eq_flatMap, String.toList_ofList]
  induction cs with
  | nil => rfl
  | cons c cs ih =>
    rw [List.flatMap_cons, utf8EncodeChar_ascii (ascii c List.mem_cons_self),
      ih fun other present => ascii other (List.mem_cons_of_mem _ present)]
    rfl

theorem ofByteList?_eq_some_iff {bytes : List UInt8} {s : String} :
    ofByteList? bytes = some s ↔ bytes = utf8Bytes s := by
  rw [ofByteList?, ← ofBytes?, ofBytes?_eq_some, utf8Bytes]
  constructor
  · intro same
    rw [same]
  · rintro rfl
    rfl

theorem ofByteList?_utf8Bytes (s : String) : ofByteList? (utf8Bytes s) = some s :=
  ofByteList?_eq_some_iff.mpr rfl

/-! ### One byte -/

theorem isEncodedChar_upperHexDigit : ∀ digit < 16, IsEncodedChar (upperHexDigit digit) := by
  decide

theorem hexByte_upperHexDigit : ∀ digit < 16, hexByte (asciiByte (upperHexDigit digit)) = some digit := by
  decide

theorem isEncodedChar_of_isUnreserved {b : UInt8} (unreserved : isUnreserved b = true) :
    IsEncodedChar (Char.ofNat b.toNat) := by
  simp only [isUnreserved, Bool.and_eq_true, Bool.or_eq_true, beq_iff_eq] at unreserved
  rcases unreserved.2 with (((alphanumeric | rest) | rest) | rest) | rest
  · exact .inl alphanumeric
  all_goals
    rw [rest]
    decide

theorem isEncodedChar_of_mem_encodeByte {b : UInt8} {c : Char} (present : c ∈ encodeByte b) :
    IsEncodedChar c := by
  have small : b.toNat < 256 := b.toNat_lt
  unfold encodeByte at present
  split at present
  · rename_i unreserved
    rw [List.mem_singleton.mp present]
    exact isEncodedChar_of_isUnreserved unreserved
  · simp only [List.mem_cons, List.not_mem_nil, or_false] at present
    rcases present with rfl | rfl | rfl
    · decide
    · exact isEncodedChar_upperHexDigit _ (by omega)
    · exact isEncodedChar_upperHexDigit _ (by omega)

theorem percentDecode_cons_of_ne {b : UInt8} (other : b ≠ 37) (rest : List UInt8) :
    percentDecode (b :: rest) = b :: percentDecode rest := by
  rw [percentDecode]
  exact fun _ _ _ same => absurd same other

theorem percentDecode_group {b high low : UInt8} (pair : hexPair high low = some b) (rest : List UInt8) :
    percentDecode (37 :: high :: low :: rest) = b :: percentDecode rest := by
  rw [percentDecode]
  simp only [pair]

theorem percentDecode_encodeByte (b : UInt8) (rest : List UInt8) :
    percentDecode ((encodeByte b).map asciiByte ++ rest) = b :: percentDecode rest := by
  have small : b.toNat < 256 := b.toNat_lt
  unfold encodeByte
  split
  · rename_i unreserved
    have ascii : b.toNat < 128 := by
      have below : b < 0x80 := by
        simp only [isUnreserved, Bool.and_eq_true, decide_eq_true_eq] at unreserved
        exact unreserved.1
      simpa [UInt8.lt_iff_toNat_lt] using below
    have same : asciiByte (Char.ofNat b.toNat) = b := by
      rw [asciiByte, toNat_ofNat_ascii ascii, UInt8.ofNat_toNat]
    have other : b ≠ 37 := by
      rintro rfl
      exact absurd unreserved (by decide)
    simp only [List.map_cons, List.map_nil, same, List.singleton_append]
    exact percentDecode_cons_of_ne other rest
  · have high := hexByte_upperHexDigit (b.toNat / 16) (by omega)
    have low := hexByte_upperHexDigit (b.toNat % 16) (by omega)
    have whole : b.toNat / 16 * 16 + b.toNat % 16 = b.toNat := by omega
    refine percentDecode_group ?_ rest
    rw [asciiByte] at high low
    rw [hexPair, asciiByte, asciiByte, high, low]
    show some (UInt8.ofNat (b.toNat / 16 * 16 + b.toNat % 16)) = some b
    rw [whole, UInt8.ofNat_toNat]

/-! ### Texts -/

theorem isEncodedChar_of_mem_percentEncode {s : String} {c : Char} (present : c ∈ percentEncode s) :
    IsEncodedChar c := by
  obtain ⟨b, -, written⟩ := List.mem_flatMap.mp present
  exact isEncodedChar_of_mem_encodeByte written

theorem percentDecode_flatMap_encodeByte (bytes : List UInt8) :
    percentDecode ((bytes.flatMap encodeByte).map asciiByte) = bytes := by
  induction bytes with
  | nil => rfl
  | cons b bytes ih => rw [List.flatMap_cons, List.map_append, percentDecode_encodeByte, ih]

theorem percentDecode_percentEncode (s : String) :
    percentDecode (utf8Bytes (String.ofList (percentEncode s))) = utf8Bytes s := by
  rw [utf8Bytes_ofList_ascii fun c present => (isEncodedChar_of_mem_percentEncode present).ascii]
  exact percentDecode_flatMap_encodeByte (utf8Bytes s)

end Relay.Text
