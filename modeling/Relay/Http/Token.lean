/-!
# Tokens

The characters of header names and methods.
-/

namespace Relay.Http

def isTokenChar (c : Char) : Bool :=
  c.isAlphanum || "!#$%&'*+-.^_\x60|~".toList.contains c

/-- A token is not empty. -/
def isToken (s : String) : Bool := !s.isEmpty && s.toList.all isTokenChar

def maxNameLength : Nat := 65535

/-- A text with its ASCII letters in lower case. -/
def lowered (s : String) : String := String.ofList (s.toList.map Char.toLower)

/-- Two texts that differ in the case of ASCII letters at most. -/
def SameName (a b : String) : Prop := lowered a = lowered b

instance (a b : String) : Decidable (SameName a b) := inferInstanceAs (Decidable (_ = _))

/-- Letters in upper case are ASCII. -/
theorem toLower_eq_self {c : Char} (high : 128 ≤ c.toNat) : c.toLower = c := by
  unfold Char.toLower
  split
  · rename_i upper
    have bound : c.toNat ≤ 90 := upper.2
    omega
  · rfl

theorem isTokenChar_toLower (c : Char) : isTokenChar c.toLower = isTokenChar c := by
  have table : ∀ n < 128, isTokenChar (Char.ofNat n).toLower = isTokenChar (Char.ofNat n) := by decide
  by_cases ascii : c.toNat < 128
  · have here := table c.toNat ascii
    rwa [Char.ofNat_toNat] at here
  · rw [toLower_eq_self (by omega)]

@[simp] theorem lowered_lowered (s : String) : lowered (lowered s) = lowered s := by
  have table : ∀ n < 128, (Char.ofNat n).toLower.toLower = (Char.ofNat n).toLower := by decide
  have again : Char.toLower ∘ Char.toLower = Char.toLower := by
    funext c
    by_cases ascii : c.toNat < 128
    · have here := table c.toNat ascii
      rwa [Char.ofNat_toNat] at here
    · have same : c.toLower = c := toLower_eq_self (by omega)
      rw [Function.comp_apply, same, same]
  rw [lowered, lowered, String.toList_ofList, List.map_map, again]

@[simp] theorem length_lowered (s : String) : (lowered s).length = s.length := by
  rw [lowered, String.length_ofList, List.length_map, String.length_toList]

@[simp] theorem isToken_lowered (s : String) : isToken (lowered s) = isToken s := by
  have filled : (lowered s).isEmpty = s.isEmpty := by
    rw [Bool.eq_iff_iff, String.isEmpty_iff, String.isEmpty_iff, ← String.length_eq_zero_iff,
      length_lowered, String.length_eq_zero_iff]
  rw [isToken, filled]
  simp [isToken, lowered, Function.comp_def, isTokenChar_toLower]

end Relay.Http
