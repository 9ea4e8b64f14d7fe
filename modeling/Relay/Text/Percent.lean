import Relay.Text.Digits
import Relay.Text.Utf8

/-!
# Percent encoding

Every byte outside the unreserved ones is written as a percent sign and two hexadecimal digits. Reading
takes such a group for its byte and leaves a percent sign without two digits as it is.
-/

namespace Relay.Text

/-- Letters, digits and the four marks that stand for themselves. -/
def isUnreserved (b : UInt8) : Bool :=
  let c := Char.ofNat b.toNat
  b < 0x80 && (c.isAlphanum || c == '-' || c == '_' || c == '.' || c == '~')

def upperHexDigit (n : Nat) : Char := (Nat.digitChar n).toUpper

def encodeByte (b : UInt8) : List Char :=
  if isUnreserved b then [Char.ofNat b.toNat]
  else ['%', upperHexDigit (b.toNat / 16), upperHexDigit (b.toNat % 16)]

def percentEncode (s : String) : List Char := (utf8Bytes s).flatMap encodeByte

def hexByte (b : UInt8) : Option Nat :=
  if b < 0x80 then hexValue (Char.ofNat b.toNat) else none

def hexPair (high low : UInt8) : Option UInt8 := do
  return UInt8.ofNat ((← hexByte high) * 16 + (← hexByte low))

def percentDecode : List UInt8 → List UInt8
  | [] => []
  | b :: rest =>
    match b, rest with
    | 37, high :: low :: rest' =>
      match hexPair high low with
      | some decoded => decoded :: percentDecode rest'
      | none => 37 :: percentDecode (high :: low :: rest')
    | b, rest => b :: percentDecode rest

end Relay.Text
