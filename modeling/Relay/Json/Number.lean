import Relay.Decimal.Shortest
import Relay.Text.Digits

/-!
# Numbers of a document

A number without fraction and exponent that fits 64 bits is whole; every other number is a double.
The text of a double always shows that it is one.
-/

namespace Relay.Json

inductive Number where
  | whole (n : Int)
  | real (x : Binary64)
  deriving Repr, DecidableEq

namespace Number

/-- Whole numbers range from the least signed to the greatest unsigned word of 64 bits. -/
def InRange (n : Int) : Prop := -9223372036854775808 ≤ n ∧ n ≤ 18446744073709551615

instance (n : Int) : Decidable (InRange n) := inferInstanceAs (Decidable (_ ∧ _))

/-- Where the text of a double changes from places to an exponent. -/
structure Layout where
  least : Int
  greatest : Int

/-- Leading digits from the fifth place after the point to the sixteenth before it are written in
places. -/
def layout : Layout := ⟨-5, 15⟩

/-- Digits in places: the point stands after `power + 1` digits, a zero on either side of it when
there would be none. -/
def positional (digits : List Char) (power : Int) : List Char :=
  if power < 0 then
    '0' :: '.' :: (List.replicate (-power - 1).toNat '0' ++ digits)
  else
    let places := power.toNat + 1
    if digits.length ≤ places then
      digits ++ List.replicate (places - digits.length) '0' ++ ['.', '0']
    else digits.take places ++ '.' :: digits.drop places

/-- One digit before the point, and a signed exponent. -/
def scientific (digits : List Char) (power : Int) : List Char :=
  let fraction := digits.drop 1
  let point := if fraction.isEmpty then [] else '.' :: fraction
  let sign := if power < 0 then '-' else '+'
  digits.take 1 ++ point ++ 'e' :: sign :: Text.natDigits power.natAbs

/-- The text of a double: the shortest digits that read back. -/
def realChars (x : Binary64) : List Char :=
  let (value, exponent) := x.shortest
  let digits := Text.natDigits value
  let power := exponent + digits.length - 1
  let body :=
    if layout.least ≤ power && power ≤ layout.greatest then positional digits power
    else scientific digits power
  if x.negative then '-' :: body else body

def wholeChars (n : Int) : List Char :=
  if n < 0 then '-' :: Text.natDigits n.natAbs else Text.natDigits n.natAbs

def chars : Number → List Char
  | whole n => wholeChars n
  | real x => realChars x

def text (n : Number) : String := String.ofList n.chars

end Number
end Relay.Json
