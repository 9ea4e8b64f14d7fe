/-!
# Bytes as text

Bytes that are UTF-8 are a text. Others can still be shown: each longest piece that begins a character
and does not end one becomes a replacement character.
-/

namespace Relay.Text

def utf8Bytes (s : String) : List UInt8 := s.toUTF8.data.toList

def ofBytes? (bytes : ByteArray) : Option String := String.fromUTF8? bytes

theorem ofBytes?_eq_some {bytes : ByteArray} {s : String} : ofBytes? bytes = some s ↔ s.toUTF8 = bytes := by
  unfold ofBytes? String.fromUTF8?
  constructor
  · intro read
    split at read
    · rw [← Option.some.inj read]
      rfl
    · cases read
  · rintro rfl
    rw [dif_pos (show s.toUTF8.IsValidUTF8 from s.isValidUTF8)]
    rfl

def ofByteList? (bytes : List UInt8) : Option String := String.fromUTF8? ⟨bytes.toArray⟩

def replacement : Char := '\uFFFD'

/-- How many bytes the character takes that starts with this byte, its bits, and the bounds of the
second byte. -/
def leadByte (b : Nat) : Option (Nat × Nat × Nat × Nat) :=
  if b < 0x80 then some (1, b, 0, 0)
  else if 0xC2 ≤ b && b ≤ 0xDF then some (2, b - 0xC0, 0x80, 0xBF)
  else if b = 0xE0 then some (3, 0, 0xA0, 0xBF)
  else if b = 0xED then some (3, 13, 0x80, 0x9F)
  else if 0xE1 ≤ b && b ≤ 0xEF then some (3, b - 0xE0, 0x80, 0xBF)
  else if b = 0xF0 then some (4, 0, 0x90, 0xBF)
  else if b = 0xF4 then some (4, 4, 0x80, 0x8F)
  else if 0xF1 ≤ b && b ≤ 0xF3 then some (4, b - 0xF0, 0x80, 0xBF)
  else none

/-- A character that has begun: how many bytes it still needs, its bits, and the bounds of the next
byte. -/
structure Partial where
  needed : Nat
  bits : Nat
  least : Nat
  most : Nat

def startChar (b : UInt8) : List Char × Option Partial :=
  match leadByte b.toNat with
  | none => ([replacement], none)
  | some (1, bits, _, _) => ([Char.ofNat bits], none)
  | some (length, bits, least, most) => ([], some ⟨length - 1, bits, least, most⟩)

/-- The characters that bytes show, after the beginning of a character if there is one. -/
def lossyFrom : Option Partial → List UInt8 → List Char
  | none, [] => []
  | some _, [] => [replacement]
  | none, b :: rest =>
    let (shown, begun) := startChar b
    shown ++ lossyFrom begun rest
  | some p, b :: rest =>
    if p.least ≤ b.toNat && b.toNat ≤ p.most then
      let bits := p.bits * 64 + (b.toNat - 0x80)
      if p.needed = 1 then Char.ofNat bits :: lossyFrom none rest
      else lossyFrom (some ⟨p.needed - 1, bits, 0x80, 0xBF⟩) rest
    else
      let (shown, begun) := startChar b
      replacement :: (shown ++ lossyFrom begun rest)

/-- Bytes as a text to look at: the text itself when the bytes are one. -/
def lossy (bytes : ByteArray) : String :=
  match ofBytes? bytes with
  | some s => s
  | none => String.ofList (lossyFrom none bytes.data.toList)

end Relay.Text
