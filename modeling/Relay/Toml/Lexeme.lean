import Relay.Text.Digits

/-!
# The small parts of TOML

Blanks, comments, ends of lines, strings and names. A line feed ends a line; the pair of a carriage
return and a line feed counts as one before anything is read. Every reader gives what it read and the
text behind it, or nothing where the text is malformed.
-/

namespace Relay.Toml

abbrev Scan (α : Type) := List Char → Option (α × List Char)

/-- A text in which every end of a line is a line feed. -/
def unifyLines : List Char → List Char
  | '\r' :: '\n' :: rest => '\n' :: unifyLines rest
  | c :: rest => c :: unifyLines rest
  | [] => []

def isBlank (c : Char) : Bool := c == ' ' || c == '\t'

/-- What may stand in a comment: all but the controls, the tab apart. -/
def isPlain (c : Char) : Bool := c == '\t' || (' ' ≤ c && c != '\x7F')

def skipBlanks (cs : List Char) : List Char := cs.dropWhile isBlank

/-- A text behind blanks, comments and ends of lines, given whether its front is in a comment. -/
def skipTrivia : Bool → List Char → List Char
  | _, [] => []
  | true, c :: rest =>
    if c = '\n' then skipTrivia false rest
    else if isPlain c then skipTrivia true rest
    else c :: rest
  | false, c :: rest =>
    if c = '\n' || isBlank c then skipTrivia false rest
    else if c = '#' then skipTrivia true rest
    else c :: rest

/-- The text behind the end of a line: blanks and a comment may stand before it. -/
def endLine (cs : List Char) : Option (List Char) :=
  let behind := match skipBlanks cs with
    | '#' :: rest => rest.dropWhile isPlain
    | rest => rest
  match behind with
  | [] => some []
  | '\n' :: rest => some rest
  | _ => none

def expect (c : Char) : List Char → Option (List Char)
  | d :: rest => if d = c then some rest else none
  | [] => none

def expectAll : List Char → List Char → Option (List Char)
  | [], rest => some rest
  | c :: cs, rest => (expect c rest).bind (expectAll cs)

/-! ### Strings -/

/-- The character of a number, unless the number is no character. -/
def charOf (digits : List Char) : Option Char := do
  let values ← digits.mapM Text.hexValue
  let n := values.foldl (fun n digit => n * 16 + digit) 0
  if n < 0xD800 || (0xE000 ≤ n && n < 0x110000) then some (Char.ofNat n) else none

/-- What stands behind a backslash for one character. -/
def escape : Scan Char
  | 'b' :: rest => some ('\x08', rest)
  | 't' :: rest => some ('\t', rest)
  | 'n' :: rest => some ('\n', rest)
  | 'f' :: rest => some ('\x0C', rest)
  | 'r' :: rest => some ('\r', rest)
  | '"' :: rest => some ('"', rest)
  | '\\' :: rest => some ('\\', rest)
  | 'u' :: a :: b :: c :: d :: rest => (charOf [a, b, c, d]).map (·, rest)
  | 'U' :: a :: b :: c :: d :: e :: f :: g :: h :: rest =>
    (charOf [a, b, c, d, e, f, g, h]).map (·, rest)
  | _ => none

/-- The text behind the end of a line that a backslash takes away, with all the white space around
it. -/
def joinLines (cs : List Char) : Option (List Char) :=
  match skipBlanks cs with
  | '\n' :: rest => some (rest.dropWhile fun c => isBlank c || c == '\n')
  | _ => none

/-- The end of a string in three quotation marks, of which three have been read: up to two more belong
to the string. -/
def closeThree (quote : Char) : List Char → List Char × List Char
  | a :: b :: rest =>
    if a = quote then if b = quote then ([a, b], rest) else ([a], b :: rest) else ([], a :: b :: rest)
  | [a] => if a = quote then ([a], []) else ([], [a])
  | [] => ([], [])

/-- The rest of a string up to its closing quotation mark. With `raw` a backslash is a character as
any other; with `long` the string is closed by three marks and may go over several lines. The fuel is
the number of characters left. -/
def stringRest (quote : Char) (raw long : Bool) : Nat → Scan (List Char)
  | 0, _ => none
  | fuel + 1, cs =>
    let go (added : List Char) (rest : List Char) : Option (List Char × List Char) :=
      (stringRest quote raw long fuel rest).map fun (text, rest) => (added ++ text, rest)
    match cs with
    | [] => none
    | c :: rest =>
      if c = quote then
        if long then
          match rest with
          | a :: b :: rest' =>
            if a = quote && b = quote then some (closeThree quote rest') else go [c] rest
          | rest => go [c] rest
        else some ([], rest)
      else if c = '\\' && !raw then
        match if long then joinLines rest else none with
        | some rest => go [] rest
        | none => (escape rest).bind fun (c, rest) => go [c] rest
      else if isPlain c || (long && c = '\n') then go [c] rest
      else none

def string : Scan (List Char)
  | c :: rest =>
    if c = '"' || c = '\'' then
      let raw := c = '\''
      match expectAll [c, c] rest with
      | some ('\n' :: rest) => stringRest c raw true (rest.length + 1) rest
      | some rest => stringRest c raw true (rest.length + 1) rest
      | none => stringRest c raw false (rest.length + 1) rest
    else none
  | [] => none

/-! ### Names -/

/-- What stands in a name without quotation marks. -/
def isNameChar (c : Char) : Bool := c.isAlphanum || c == '_' || c == '-'

/-- One name: bare, or a string on one line. -/
def name : Scan String
  | c :: rest =>
    if c = '"' || c = '\'' then
      (stringRest c (c = '\'') false (rest.length + 1) rest).map fun (text, rest) =>
        (String.ofList text, rest)
    else if isNameChar c then
      some (String.ofList (c :: rest.takeWhile isNameChar), rest.dropWhile isNameChar)
    else none
  | [] => none

/-- Names joined by dots, with blanks around each. The fuel is more than the number of names. -/
def namesFrom : Nat → Scan (List String)
  | 0, _ => none
  | fuel + 1, cs => do
    let (first, rest) ← name (skipBlanks cs)
    match skipBlanks rest with
    | '.' :: rest =>
      let (names, rest) ← namesFrom fuel rest
      return (first :: names, rest)
    | rest => return ([first], rest)

def maxPath : Nat := 79

/-- A path of names, with the blanks around it. -/
def path (cs : List Char) : Option (List String × List Char) :=
  (namesFrom (cs.length + 1) cs).filter fun (names, _) => names.length ≤ maxPath

end Relay.Toml
