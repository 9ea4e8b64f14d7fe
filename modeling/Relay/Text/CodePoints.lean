/-!
# Sets and maps of code points

A set is a list of inclusive ranges. A map is a list of runs: code points at a fixed step, all moved
by one amount.
-/

namespace Relay.Text

def inRanges (ranges : List (Nat × Nat)) (n : Nat) : Bool :=
  ranges.any fun range => range.1 ≤ n && n ≤ range.2

/-- The code points `first, first + step, …, last`, each of them moved by `shift`. -/
structure Run where
  first : Nat
  last : Nat
  step : Nat
  shift : Int
  deriving Repr, DecidableEq

/-- Whether a run moves the code point `n`. -/
def Run.covers (run : Run) (n : Nat) : Bool :=
  run.first ≤ n && n ≤ run.last && (n - run.first) % run.step == 0

/-- The character that a list of runs sends `c` to; characters outside all runs stay. -/
def moveBy (runs : List Run) (c : Char) : Char :=
  match runs.find? (·.covers c.toNat) with
  | some run => Char.ofNat (Int.toNat (c.toNat + run.shift))
  | none => c

end Relay.Text
