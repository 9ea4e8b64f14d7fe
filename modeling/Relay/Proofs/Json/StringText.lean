import Relay.Json.Printer
import Relay.Json.Token

/-!
# Printed strings are read

A string text holds the string itself and nothing else: the reader undoes every escape that the printer
writes, and stops at the quotation mark behind them.
-/

namespace Relay.Json

theorem hexDigits_control : ∀ n < 0x20,
    Text.hexDigits 4 n = ['0', '0', Nat.digitChar (n / 16), Nat.digitChar (n % 16)] := by
  decide

theorem hexValue_digitChar : ∀ digit < 16, Text.hexValue (Nat.digitChar digit) = some digit := by
  decide

theorem closeHex_control {n : Nat} (control : n < 0x20) : closeHex none n = .ok (.inl (Char.ofNat n)) := by
  unfold closeHex
  rw [if_neg (by simp; omega), if_neg (by simp; omega)]

theorem scanString_control {n : Nat} (control : n < 0x20) (rest read : List Char) :
    scanString ('\\' :: 'u' :: (Text.hexDigits 4 n ++ rest)) .plain read =
      scanString rest .plain (Char.ofNat n :: read) := by
  have high := hexValue_digitChar (n / 16) (by omega)
  have low := hexValue_digitChar (n % 16) (by omega)
  have zero : Text.hexValue '0' = some 0 := by decide
  have whole : n / 16 * 16 + n % 16 = n := by omega
  rw [hexDigits_control n control]
  simp [scanString, zero, high, low, whole, closeHex_control control]

theorem skipString_control {n : Nat} (control : n < 0x20) (rest : List Char) :
    skipString ('\\' :: 'u' :: (Text.hexDigits 4 n ++ rest)) .plain = skipString rest .plain := by
  have high := hexValue_digitChar (n / 16) (by omega)
  have low := hexValue_digitChar (n % 16) (by omega)
  have zero : Text.hexValue '0' = some 0 := by decide
  rw [hexDigits_control n control]
  simp [skipString, zero, high, low]

theorem scanString_stringChar (c : Char) (rest read : List Char) :
    scanString (stringChar c ++ rest) .plain read = scanString rest .plain (c :: read) := by
  unfold stringChar
  split
  case h_8 quote backslash _ _ _ _ _ =>
    split
    · rename_i control
      have same : Char.ofNat c.toNat = c := Char.ofNat_toNat c
      simpa [same] using scanString_control control rest read
    · rename_i printable
      simp only [List.singleton_append, scanString, if_neg quote, if_neg backslash, if_neg printable]
  all_goals simp [scanString, escapedChar]

theorem skipString_stringChar (c : Char) (rest : List Char) :
    skipString (stringChar c ++ rest) .plain = skipString rest .plain := by
  unfold stringChar
  split
  case h_8 quote backslash _ _ _ _ _ =>
    split
    · rename_i control
      exact skipString_control control rest
    · rename_i printable
      simp only [List.singleton_append, skipString, if_neg quote, if_neg backslash, if_neg printable]
  all_goals simp [skipString, escapedChar]

theorem scanString_printed (cs rest read : List Char) :
    scanString (cs.flatMap stringChar ++ '"' :: rest) .plain read =
      .ok (String.ofList (read.reverse ++ cs), rest) := by
  induction cs generalizing read with
  | nil => simp [scanString]
  | cons c cs ih =>
    rw [List.flatMap_cons, List.append_assoc, scanString_stringChar, ih]
    simp

theorem skipString_printed (cs rest : List Char) :
    skipString (cs.flatMap stringChar ++ '"' :: rest) .plain = .ok rest := by
  induction cs with
  | nil => simp [skipString]
  | cons c cs ih => rw [List.flatMap_cons, List.append_assoc, skipString_stringChar, ih]

theorem stringToken_printed (s : String) (rest : List Char) :
    stringToken (s.toList.flatMap stringChar ++ '"' :: rest) = (.str (.ok s), rest) := by
  unfold stringToken
  rw [scanString_printed, skipString_printed]
  simp [Except.map]

end Relay.Json
