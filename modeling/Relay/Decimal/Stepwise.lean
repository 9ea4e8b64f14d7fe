import Relay.Decimal.Binary64

/-!
# Decimals in steps

A decimal that is rounded more than once: its digits to a double, a power of ten to another one, and then the product
or the quotient of the two. What comes out may lie beside the nearest double, and be out of range where that is not.
-/

namespace Relay.Binary64

/-- The product of two doubles, rounded. -/
def times (x y : Binary64) : Option Binary64 :=
  ofRatio (x.negative != y.negative) (x.ratio.1 * y.ratio.1) (x.ratio.2 * y.ratio.2)

/-- The quotient of two doubles, rounded. The second one is not zero. -/
def dividedBy (x y : Binary64) : Option Binary64 :=
  ofRatio (x.negative != y.negative) (x.ratio.1 * y.ratio.2) (x.ratio.2 * y.ratio.1)

/-- The greatest power of ten that a step goes up or down. -/
def longestStep : Nat := 308

/-- `10 ^ step`, rounded. -/
def tenPower (step : Nat) : Option Binary64 := ofRatio false (Nat.pow 10 step) 1

/-- Goes down the longest step for `rounds` times, and a step of its own at the end. Zero goes no further. -/
def lowered (last : Nat) : Nat → Binary64 → Option Binary64
  | 0, x => do x.dividedBy (← tenPower last)
  | rounds + 1, x =>
    if x.mantissa = 0 then some x
    else do lowered last rounds (← x.dividedBy (← tenPower longestStep))

/-- The double for `significand * 10 ^ exponent`, rounded at every step; `none` when it is out of range. -/
def ofSteps (negative : Bool) (significand : Nat) (exponent : Int) : Option Binary64 := do
  let x ← ofRatio negative significand 1
  if exponent < 0 then
    let down := (-exponent).toNat
    let rounds := (down - 1) / longestStep
    lowered (down - rounds * longestStep) rounds x
  else if exponent ≤ longestStep then x.times (← tenPower exponent.toNat)
  else if x.mantissa = 0 then some x
  else none

end Relay.Binary64
