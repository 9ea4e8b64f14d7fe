import Relay.Text.Blank

/-!
# Masked values

A masked value keeps its length and at most its last four characters. A blank value says nothing
and stays as it is.
-/

namespace Relay.Text

/-- How many trailing characters of a value of `length` characters stay readable. -/
def visibleTail (length : Nat) : Nat :=
  if length ≤ 4 then 0 else min 4 (length / 4)

/-- Stars in place of all characters but the visible tail. -/
def maskChars (cs : List Char) : List Char :=
  if cs.all isBlank then cs
  else
    let hidden := cs.length - visibleTail cs.length
    List.replicate hidden '*' ++ cs.drop hidden

def mask (s : String) : String := String.ofList (maskChars s.toList)

theorem length_maskChars (cs : List Char) : (maskChars cs).length = cs.length := by
  unfold maskChars
  split
  · rfl
  · simp

end Relay.Text
