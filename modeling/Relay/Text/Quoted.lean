import Relay.Text.Digits
import Relay.Text.Printable

/-!
# Quoted texts

A text between double quotation marks in which every character that would not show, or would end
the quotation, is written as an escape.
-/

namespace Relay.Text

def quotedChar (c : Char) : List Char :=
  match c with
  | '"' => ['\\', '"']
  | '\\' => ['\\', '\\']
  | '\n' => ['\\', 'n']
  | '\r' => ['\\', 'r']
  | '\t' => ['\\', 't']
  | '\x00' => ['\\', '0']
  | c => if isPrintable c then [c] else "\\u\x7b".toList ++ hexDigits 1 c.toNat ++ ['\x7d']

/-- A text in double quotation marks, unprintable characters by number. -/
def quoted (s : String) : String :=
  String.ofList (['"'] ++ s.toList.flatMap quotedChar ++ ['"'])

end Relay.Text
