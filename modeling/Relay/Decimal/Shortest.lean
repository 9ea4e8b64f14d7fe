import Relay.Decimal.Binary64

/-!
# Shortest decimals

The decimal with the fewest digits that reads back as a given double, and of those the nearest one.
Every candidate is read back before it is taken, so what is written is what is read.
-/

namespace Relay.Binary64

def stripZeros : Nat → Nat → Int → Nat × Int
  | 0, digits, exponent => (digits, exponent)
  | fuel + 1, digits, exponent =>
    if digits % 10 = 0 && digits ≠ 0 then stripZeros fuel (digits / 10) (exponent + 1)
    else (digits, exponent)

def readsBack (x : Binary64) (decimal : Nat × Int) : Bool :=
  ofDecimal x.negative decimal.1 decimal.2 == some x

/-- The power of ten of the leading digit of `num / den`. -/
def leadingPower (num den : Nat) : Int :=
  if den ≤ num then ((Nat.toDigits 10 (num / den)).length : Int) - 1
  else -((Nat.toDigits 10 (den / num)).length : Int)

/-- The best decimal of `count` digits for `x`: of its two neighbours on that grid the nearer one that
reads back, a tie going to the even digit. -/
def candidate (x : Binary64) (count : Nat) : Option (Nat × Int) :=
  let (num, den) := x.ratio
  let unit := leadingPower num den - count + 1
  let (n, d) := if 0 ≤ unit then (num, den * power 10 unit) else (num * power 10 (-unit), den)
  let low := n / d
  let below := stripZeros 20 low unit
  let above := stripZeros 20 (low + 1) unit
  let twice := 2 * (n % d)
  let lowFirst := twice < d || (twice == d && low % 2 == 0)
  let order := if lowFirst then [below, above] else [above, below]
  order.find? x.readsBack

def exactDecimal (x : Binary64) : Nat × Int :=
  if 0 ≤ x.exponent then (x.mantissa * power 2 x.exponent, 0)
  else (x.mantissa * power 5 (-x.exponent), x.exponent)

/-- The shortest decimal that reads back as `x`, as digits and a power of ten. Seventeen digits always
suffice; the exact expansion stands in for a search that would not end. -/
def shortest (x : Binary64) : Nat × Int :=
  if x.mantissa = 0 then (0, 0)
  else ((List.range' 1 17).findSome? x.candidate).getD x.exactDecimal

end Relay.Binary64
