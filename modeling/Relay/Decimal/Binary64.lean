/-!
# Binary floating point

A finite double as a sign, a mantissa and a power of two, and the rounding of a fraction or of a
decimal to the nearest one. A tie goes to the even mantissa.
-/

namespace Relay

/-- A finite double: `mantissa * 2 ^ exponent`, negated when `negative`. -/
structure Binary64 where
  negative : Bool
  mantissa : Nat
  exponent : Int
  deriving Repr, DecidableEq

namespace Binary64

def leastExponent : Int := -1074

def greatestExponent : Int := 971

def zero (negative : Bool) : Binary64 := ⟨negative, 0, leastExponent⟩

/-- `num / den` rounded to a whole number, a tie to the even one. -/
def roundHalfEven (num den : Nat) : Nat :=
  let quotient := num / den
  let twice := 2 * (num % den)
  if twice < den then quotient
  else if den < twice then quotient + 1
  else quotient + quotient % 2

/-- A power of a base; one for a negative exponent. -/
def power (base : Nat) (exponent : Int) : Nat := Nat.pow base exponent.toNat

/-- The first mantissa that has more than 53 bits. -/
def mantissaBound : Nat := 9007199254740992

/-- The fraction `num / den` divided by `2 ^ exponent`, as numerator and denominator. -/
def scale (num den : Nat) (exponent : Int) : Nat × Nat :=
  if 0 ≤ exponent then (num, den * power 2 exponent) else (num * power 2 (-exponent), den)

/-- The exponent at which `num / den` has a mantissa of 53 bits, or the least one. -/
def exponentFor (num den : Nat) : Int :=
  let guess := max leastExponent ((num.log2 : Int) - den.log2 - 53)
  let (n, d) := scale num den guess
  if mantissaBound ≤ n / d then guess + 1 else guess

/-- The double nearest to `num / den`; `none` when the fraction is too large for any. -/
def ofRatio (negative : Bool) (num den : Nat) : Option Binary64 :=
  if num = 0 then some (zero negative)
  else
    let exponent := exponentFor num den
    let (n, d) := scale num den exponent
    let mantissa := roundHalfEven n d
    let (mantissa, exponent) :=
      if mantissa = mantissaBound then (mantissaBound / 2, exponent + 1) else (mantissa, exponent)
    if greatestExponent < exponent then none else some ⟨negative, mantissa, exponent⟩

/-- The double nearest to `digits * 10 ^ exponent`. A value of 10 ^ 310 or more is too large for any
double, one below 10 ^ -400 is nearest to zero. -/
def ofDecimal (negative : Bool) (digits : Nat) (exponent : Int) : Option Binary64 :=
  if digits = 0 then some (zero negative)
  else
    let magnitude : Int := ((Nat.toDigits 10 digits).length : Int) + exponent
    if 310 < magnitude then none
    else if magnitude < -400 then some (zero negative)
    else if 0 ≤ exponent then ofRatio negative (digits * power 10 exponent) 1
    else ofRatio negative digits (power 10 (-exponent))

/-- The absolute value as a fraction. -/
def ratio (x : Binary64) : Nat × Nat :=
  if 0 ≤ x.exponent then (x.mantissa * power 2 x.exponent, 1)
  else (x.mantissa, power 2 (-x.exponent))

end Binary64
end Relay
