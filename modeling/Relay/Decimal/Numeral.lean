/-!
# Numerals

The texts of decimal numbers: a sign or none, digits with a point or without, and an exponent or none.
Infinity and what is not a number have names of their own.
-/

namespace Relay.Decimal

def withoutSign : List Char → List Char
  | '+' :: rest => rest
  | '-' :: rest => rest
  | cs => cs

/-- Nothing, or the mark of an exponent with digits behind it. -/
def isExponent : List Char → Bool
  | [] => true
  | c :: rest =>
    let digits := withoutSign rest
    (c == 'e' || c == 'E') && !digits.isEmpty && digits.all Char.isDigit

/-- Digits, with at most one point among them, and an exponent or none. -/
def isUnsigned (cs : List Char) : Bool :=
  let whole := cs.takeWhile Char.isDigit
  match cs.dropWhile Char.isDigit with
  | '.' :: rest =>
    (!whole.isEmpty || rest.head?.any Char.isDigit) && isExponent (rest.dropWhile Char.isDigit)
  | rest => !whole.isEmpty && isExponent rest

/-- The names of numbers that have no digits, letters in either case. -/
def names : List String := ["inf", "infinity", "nan"]

def isNumeral (cs : List Char) : Bool :=
  let unsigned := withoutSign cs
  isUnsigned unsigned || names.contains (String.ofList (unsigned.map Char.toLower))

end Relay.Decimal
