import Relay.Http.Headers
import Relay.Text.Digits

/-!
# Buffered bodies

A body held in memory, with the length that is declared for it. Replacing the bytes replaces the
declared length as well, and marks the body as replaced; only a replaced body changes the headers that
frame it.
-/

namespace Relay.Http

structure Body where
  bytes : ByteArray
  declaredLength : Nat
  replaced : Bool

structure Oversized where
  bytes : ByteArray
  size : Nat
  limit : Nat

def Oversized.message (o : Oversized) : String :=
  "body of " ++ Text.natText o.size ++ " bytes exceeds the " ++ Text.natText o.limit ++ " byte limit"

namespace Body

def ofBytes (bytes : ByteArray) : Body := ⟨bytes, bytes.size, false⟩

/-- Takes a body into memory unless it is larger than the limit. -/
def collect (bytes : ByteArray) (limit : Nat) : Except Oversized Body :=
  if limit < bytes.size then .error ⟨bytes, bytes.size, limit⟩ else .ok (ofBytes bytes)

def isBlankByte (b : UInt8) : Bool := b == 32 || b == 9 || b == 10 || b == 12 || b == 13

/-- Nothing, or nothing but ASCII white space. -/
def isBlank (body : Body) : Bool := body.bytes.data.toList.all isBlankByte

def text? (body : Body) : Option String := Text.ofBytes? body.bytes

def replace (_ : Body) (bytes : ByteArray) : Body := ⟨bytes, bytes.size, true⟩

def Sized (body : Body) : Prop := body.declaredLength = body.bytes.size

theorem sized_ofBytes (bytes : ByteArray) : (ofBytes bytes).Sized := rfl

theorem sized_replace (body : Body) (bytes : ByteArray) : (body.replace bytes).Sized := rfl

/-- The headers that frame a body: those of a replaced one declare its length and no transfer
coding. -/
def frame (body : Body) (headers : Headers) : Headers :=
  if body.replaced then
    (headers.erase .transferEncoding).insert .contentLength
      (Text.natText body.declaredLength).toUTF8
  else headers

end Body
end Relay.Http
