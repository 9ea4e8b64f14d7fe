import Relay.Json.Basic

/-!
# Writing documents

The compact text of a document: no white space, members in the order in which the object holds them,
and escapes only where a string needs them.
-/

namespace Relay.Json

def stringChar (c : Char) : List Char :=
  match c with
  | '"' => ['\\', '"']
  | '\\' => ['\\', '\\']
  | '\x08' => ['\\', 'b']
  | '\x0c' => ['\\', 'f']
  | '\n' => ['\\', 'n']
  | '\r' => ['\\', 'r']
  | '\t' => ['\\', 't']
  | c => if c.toNat < 0x20 then '\\' :: 'u' :: Text.hexDigits 4 c.toNat else [c]

def stringChars (s : String) : List Char :=
  '"' :: (s.toList.flatMap stringChar ++ ['"'])

mutual

def chars : Json → List Char
  | .null => ['n', 'u', 'l', 'l']
  | .bool true => ['t', 'r', 'u', 'e']
  | .bool false => ['f', 'a', 'l', 's', 'e']
  | .num n => n.chars
  | .str s => stringChars s
  | .arr items => '[' :: (charsItems true items ++ [']'])
  | .obj members => '\x7b' :: (charsMembers true members ++ ['\x7d'])

def charsItems : Bool → List Json → List Char
  | _, [] => []
  | first, v :: rest => (if first then [] else [',']) ++ chars v ++ charsItems false rest

def charsMembers : Bool → List (String × Json) → List Char
  | _, [] => []
  | first, (k, v) :: rest =>
    (if first then [] else [',']) ++ stringChars k ++ ':' :: chars v ++ charsMembers false rest

end

def render (v : Json) : String := String.ofList v.chars

/-- The text that a value stands for by itself: a string without its quotation marks, nothing for
null, compact text for the rest. -/
def plainText : Json → String
  | .str s => s
  | .null => ""
  | v => v.render

end Relay.Json
