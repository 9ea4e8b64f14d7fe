import Relay.Text.Digits

/-!
# Identifiers

An identifier is a word of 128 bits. It is written as lower-case hexadecimal digits in groups of 8, 4,
4, 4 and 12; it is read in that form, without hyphens, between braces, or behind the prefix of its URN,
letters in either case.
-/

namespace Relay

structure Uuid where
  word : BitVec 128
  deriving Repr, DecidableEq

namespace Uuid

/-- A text cut into groups of the given sizes, joined by hyphens. -/
def hyphenated : List Nat → List Char → List Char
  | [], cs => cs
  | [_], cs => cs
  | n :: sizes, cs => cs.take n ++ '-' :: hyphenated sizes (cs.drop n)

def groups : List Nat := [8, 4, 4, 4, 12]

def chars (id : Uuid) : List Char := hyphenated groups (Text.hexDigits 32 id.word.toNat)

def text (id : Uuid) : String := String.ofList id.chars

/-- The version number, the thirteenth hexadecimal digit. -/
def version (id : Uuid) : Nat := (id.word >>> 76).toNat % 16

def ofDigits (cs : List Char) : Option Uuid :=
  if cs.length = 32 then
    (cs.mapM Text.hexValue).map fun digits =>
      ⟨BitVec.ofNat 128 (digits.foldl (fun value digit => value * 16 + digit) 0)⟩
  else none

/-- A text in groups of the given sizes, without the hyphens between them. -/
def ungrouped : List Nat → List Char → Option (List Char)
  | [], cs => if cs.isEmpty then some [] else none
  | [n], cs => if cs.length = n then some cs else none
  | n :: sizes, cs =>
    match cs.drop n with
    | '-' :: rest => (ungrouped sizes rest).map (cs.take n ++ ·)
    | _ => none

def ofGroups (cs : List Char) : Option Uuid := (ungrouped groups cs).bind ofDigits

def urnPrefix : List Char := ['u', 'r', 'n', ':', 'u', 'u', 'i', 'd', ':']

def unbraced : List Char → Option (List Char)
  | '\x7b' :: rest => if rest.getLast? = some '\x7d' then some rest.dropLast else none
  | _ => none

/-- The identifier that a text denotes; its length decides which form it must have. -/
def parseChars (cs : List Char) : Option Uuid :=
  match cs.length with
  | 32 => ofDigits cs
  | 36 => ofGroups cs
  | 38 => (unbraced cs).bind ofGroups
  | 45 => if (cs.take 9).map Char.toLower = urnPrefix then ofGroups (cs.drop 9) else none
  | _ => none

def parse (s : String) : Option Uuid := parseChars s.toList

end Uuid
end Relay
