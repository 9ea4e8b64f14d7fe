import Relay.Decimal.Stepwise
import Relay.Json.Error

/-!
# Tokens of a document text

A text is read as a list of tokens. A token that cannot be finished ends the list. Some texts are
well formed but stand for nothing: a number too large for a double, an escape for half of a surrogate
pair. They matter only to a reader that looks at the value, so a token carries the value or its
error.
-/

namespace Relay.Json

inductive Token where
  | listOpen
  | listClose
  | mapOpen
  | mapClose
  | colon
  | comma
  | null
  | bool (b : Bool)
  | num (value : Except ReadError Number)
  | str (value : Except ReadError String)
  /-- A string that its text breaks off, with the error for a reader of the value and the error for
  a reader that passes over it. -/
  | brokenString (reading skipping : ReadError)
  /-- A number or a word that its text breaks off, with the same two errors. -/
  | broken (reading skipping : ReadError)
  | stray

/-! ### Strings -/

/-- The place inside a string text. `lead` is the first half of a surrogate pair. -/
inductive InString where
  | plain
  | escape
  | hex (lead : Option Nat) (count value : Nat)
  | afterLead (lead : Nat)
  | escapeAfterLead (lead : Nat)

def escapedChar : Char → Option Char
  | '"' => some '"'
  | '\\' => some '\\'
  | '/' => some '/'
  | 'b' => some '\x08'
  | 'f' => some '\x0c'
  | 'n' => some '\n'
  | 'r' => some '\r'
  | 't' => some '\t'
  | _ => none

def byteCount (cs : List Char) : Nat := (String.ofList cs).utf8ByteSize

/-- The error of an escape by number that holds something else than digits. With fewer than four
bytes from its start to the end of the text it is the end that is in the way. -/
def hexError (count : Nat) (rest : List Char) : ReadError :=
  if 4 ≤ count + byteCount rest then .invalidEscape else .endInString

/-- What four hexadecimal digits mean: a character, or the first half of a pair. -/
def closeHex (lead : Option Nat) (value : Nat) : Except ReadError (Char ⊕ Nat) :=
  match lead with
  | none =>
    if 0xDC00 ≤ value && value ≤ 0xDFFF then .error .unpairedSurrogate
    else if 0xD800 ≤ value && value ≤ 0xDBFF then .ok (.inr value)
    else .ok (.inl (Char.ofNat value))
  | some lead =>
    if value < 0xDC00 || 0xDFFF < value then .error .unpairedSurrogate
    else .ok (.inl (Char.ofNat ((lead - 0xD800) * 0x400 + (value - 0xDC00) + 0x10000)))

/-- Reads a string text after its opening quotation mark. `read` holds the characters so far, last
one first; the answer has the text after the closing mark. -/
def scanString : List Char → InString → List Char → Except ReadError (String × List Char)
  | [], _, _ => .error .endInString
  | c :: rest, .plain, read =>
    if c = '"' then .ok (String.ofList read.reverse, rest)
    else if c = '\\' then scanString rest .escape read
    else if c.toNat < 0x20 then .error .controlCharacter
    else scanString rest .plain (c :: read)
  | c :: rest, .escape, read =>
    if c = 'u' then scanString rest (.hex none 0 0) read
    else match escapedChar c with
      | some d => scanString rest .plain (d :: read)
      | none => .error .invalidEscape
  | c :: rest, .hex lead count value, read =>
    match Text.hexValue c with
    | none => .error (hexError count (c :: rest))
    | some digit =>
      if count < 3 then scanString rest (.hex lead (count + 1) (value * 16 + digit)) read
      else match closeHex lead (value * 16 + digit) with
        | .error e => .error e
        | .ok (.inl d) => scanString rest .plain (d :: read)
        | .ok (.inr lead) => scanString rest (.afterLead lead) read
  | c :: rest, .afterLead lead, read =>
    if c = '\\' then scanString rest (.escapeAfterLead lead) read
    else .error .unfinishedSurrogate
  | c :: rest, .escapeAfterLead lead, read =>
    if c = 'u' then scanString rest (.hex (some lead) 0 0) read
    else .error .unfinishedSurrogate

/-- Passes over a string text after its opening quotation mark. Escapes by number need four digits
and nothing more. -/
def skipString : List Char → InString → Except ReadError (List Char)
  | [], _ => .error .endInString
  | c :: rest, .plain =>
    if c = '"' then .ok rest
    else if c = '\\' then skipString rest .escape
    else if c.toNat < 0x20 then .error .controlCharacter
    else skipString rest .plain
  | c :: rest, .hex _ count _ =>
    if (Text.hexValue c).isNone then .error (hexError count (c :: rest))
    else if count < 3 then skipString rest (.hex none (count + 1) 0)
    else skipString rest .plain
  | c :: rest, _ =>
    if c = 'u' then skipString rest (.hex none 0 0)
    else if (escapedChar c).isSome then skipString rest .plain
    else .error .invalidEscape

/-- The token of a text after an opening quotation mark, and the text behind it. -/
def stringToken (cs : List Char) : Token × List Char :=
  let value := scanString cs .plain []
  match skipString cs .plain, value with
  | .ok rest, value => (.str (value.map (·.1)), rest)
  | .error skipping, .error reading => (.brokenString reading skipping, [])
  | .error _, .ok (s, rest) => (.str (.ok s), rest)

/-! ### Numbers -/

structure NumberText where
  negative : Bool
  whole : List Char
  fraction : Option (List Char)
  exponent : Option Int

/-- The least significand that does not fit 64 bits. -/
def significandBound : Nat := 18446744073709551616

/-- Digits join the significand as long as it fits. The second answer is what is left of them. -/
def gather (significand : Nat) : List Char → Nat × List Char
  | [] => (significand, [])
  | c :: cs =>
    let longer := Nat.ofDigitChars 10 [c] significand
    if longer < significandBound then gather longer cs else (significand, c :: cs)

/-- The significand of a text and its power of ten. A digit that does not fit counts only for its place. -/
def NumberText.parts (t : NumberText) : Nat × Int :=
  let fraction := t.fraction.getD []
  let (significand, passed) := gather 0 t.whole
  let (significand, ignored) := gather significand fraction
  (significand, t.exponent.getD 0 + passed.length + ignored.length - fraction.length)

/-- A number that is no whole number of 64 bits: a double, which is read in steps. -/
def NumberText.real (t : NumberText) : Except ReadError Number :=
  match Binary64.ofSteps t.negative t.parts.1 t.parts.2 with
  | some x => .ok (.real x)
  | none => .error .numberOutOfRange

/-- The number that a text denotes. Minus zero is a double, as is what does not fit 64 bits. -/
def NumberText.value (t : NumberText) : Except ReadError Number :=
  match t.fraction, t.exponent with
  | none, none =>
    let magnitude := Text.digitsValue t.whole
    let n : Int := if t.negative then -(magnitude : Int) else magnitude
    if Number.InRange n && !(t.negative && magnitude == 0) then .ok (.whole n) else t.real
  | _, _ => t.real

/-- The error where a digit is wanted and none stands. -/
def noDigit (rest : List Char) : ReadError :=
  if rest.isEmpty then .endInValue else .invalidNumber

/-- A point and the digits behind it, if the text goes on with a point. -/
def scanFraction : List Char → Except ReadError (Option (List Char) × List Char)
  | '.' :: cs =>
    let digits := cs.takeWhile Char.isDigit
    let rest := cs.dropWhile Char.isDigit
    if digits.isEmpty then .error (noDigit rest) else .ok (some digits, rest)
  | cs => .ok (none, cs)

/-- The digits of an exponent behind its sign. -/
def scanExponentDigits (negative : Bool) (cs : List Char) :
    Except ReadError (Option Int × List Char) :=
  let digits := cs.takeWhile Char.isDigit
  let rest := cs.dropWhile Char.isDigit
  if digits.isEmpty then .error (noDigit rest)
  else
    let magnitude : Int := Text.digitsValue digits
    .ok (some (if negative then -magnitude else magnitude), rest)

/-- A letter for the exponent, a sign and digits, if the text goes on with the letter. -/
def scanExponent : List Char → Except ReadError (Option Int × List Char)
  | c :: cs =>
    if c = 'e' || c = 'E' then
      match cs with
      | '+' :: cs => scanExponentDigits false cs
      | '-' :: cs => scanExponentDigits true cs
      | cs => scanExponentDigits false cs
    else .ok (none, c :: cs)
  | [] => .ok (none, [])

/-- Reads a number text after its sign. A leading zero stands alone. -/
def scanNumber (negative : Bool) (cs : List Char) : Except ReadError (NumberText × List Char) := do
  let whole := cs.takeWhile Char.isDigit
  let rest := cs.dropWhile Char.isDigit
  if whole.isEmpty then throw (noDigit rest)
  if whole.head? == some '0' && whole.length != 1 then throw .invalidNumber
  let (fraction, rest) ← scanFraction rest
  let (exponent, rest) ← scanExponent rest
  return (⟨negative, whole, fraction, exponent⟩, rest)

/-- The token of a number text after its sign, and the text behind it. -/
def numberToken (negative : Bool) (cs : List Char) : Token × List Char :=
  match scanNumber negative cs with
  | .ok (t, rest) => (.num t.value, rest)
  | .error e => (.broken e .invalidNumber, [])

/-! ### The list of tokens -/

/-- The token of one of the three words, after its first letter. -/
def wordToken (token : Token) : List Char → List Char → Token × List Char
  | [], cs => (token, cs)
  | _ :: _, [] => (.broken .endInValue .endInValue, [])
  | w :: word, c :: cs =>
    if c = w then wordToken token word cs else (.broken .expectedWord .expectedWord, [])

def isSpace (c : Char) : Bool := c = ' ' || c = '\n' || c = '\t' || c = '\r'

/-- The token that starts with `c`, and the text behind it. -/
def token (c : Char) (cs : List Char) : Token × List Char :=
  match c with
  | '[' => (.listOpen, cs)
  | ']' => (.listClose, cs)
  | '\x7b' => (.mapOpen, cs)
  | '\x7d' => (.mapClose, cs)
  | ':' => (.colon, cs)
  | ',' => (.comma, cs)
  | '"' => stringToken cs
  | 'n' => wordToken .null ['u', 'l', 'l'] cs
  | 't' => wordToken (.bool true) ['r', 'u', 'e'] cs
  | 'f' => wordToken (.bool false) ['a', 'l', 's', 'e'] cs
  | '-' => numberToken true cs
  | c => if c.isDigit then numberToken false (c :: cs) else (.stray, [])

/-- The tokens of a text of at most `fuel` characters. -/
def tokensFrom : Nat → List Char → List Token
  | 0, _ => []
  | _ + 1, [] => []
  | fuel + 1, c :: cs =>
    if isSpace c then tokensFrom fuel cs
    else
      let (first, rest) := token c cs
      first :: tokensFrom fuel rest

def tokens (s : String) : List Token := tokensFrom s.toList.length s.toList

end Relay.Json
