import Relay.Json.Path
import Relay.Text.Blank

/-!
# Reading path expressions

A path is read from left to right, without the white space at either end. Positions in errors count the
characters before the one in question.
-/

namespace Relay.Json

inductive PathFault where
  | empty
  | unexpected (c : Char) (position : Nat)
  | noName (position : Nat)
  | filter
  | slice
  | unexpectedInBrackets (c : Char)
  | openBracket
  | openQuote
  | badIndex (digits : String)
  deriving Repr, DecidableEq

def PathFault.message : PathFault → String
  | empty => "path is empty"
  | unexpected c position =>
    "unexpected character '" ++ c.toString ++ "' at position " ++ Text.natText position
  | noName position => "expected a member name at position " ++ Text.natText position
  | filter => "filter expressions are not supported"
  | slice => "array slices are not supported"
  | unexpectedInBrackets c => "unexpected character '" ++ c.toString ++ "' in brackets"
  | openBracket => "unclosed '['"
  | openQuote => "unterminated quoted name"
  | badIndex digits => "invalid array index '" ++ digits ++ "'"

namespace Path

/-- Whether a character goes on with a name outside brackets. -/
def isNameChar (c : Char) : Bool := c != '.' && c != '['

/-- A star or a name, at a position of the path. -/
def readMember (place : Nat) (cs : List Char) : Except PathFault (Selector × List Char) :=
  match cs with
  | '*' :: rest => .ok (.wildcard, rest)
  | cs =>
    let name := cs.takeWhile isNameChar
    if name.isEmpty then .error (.noName place)
    else .ok (.name (String.ofList name), cs.dropWhile isNameChar)

/-- A quoted name after its opening mark. A backslash makes the next character literal. -/
def readQuoted (mark : Char) : List Char → List Char → Except PathFault (Selector × List Char)
  | [], _ => .error .openQuote
  | '\\' :: c :: rest, name => readQuoted mark rest (c :: name)
  | c :: rest, name =>
    if c = '\\' then .error .openQuote
    else if c = mark then .ok (.name (String.ofList name.reverse), rest)
    else readQuoted mark rest (c :: name)

def indexFits (i : Int) : Bool := -9223372036854775808 ≤ i && i ≤ 9223372036854775807

/-- An index: digits, a minus sign before those that count from the end. -/
def readIndex (cs : List Char) : Except PathFault (Selector × List Char) :=
  let (negative, digits) := match cs with
    | '-' :: rest => (true, rest)
    | cs => (false, cs)
  let run := digits.takeWhile Char.isDigit
  let written := String.ofList (if negative then '-' :: run else run)
  match Text.readNat run with
  | none => .error (.badIndex written)
  | some magnitude =>
    let i : Int := if negative then -(magnitude : Int) else magnitude
    if indexFits i then .ok (.index i, digits.dropWhile Char.isDigit)
    else .error (.badIndex written)

def readSelector (cs : List Char) : Except PathFault (Selector × List Char) :=
  match cs with
  | [] => .error .openBracket
  | '\'' :: rest => readQuoted '\'' rest []
  | '"' :: rest => readQuoted '"' rest []
  | '*' :: rest => .ok (.wildcard, rest)
  | '?' :: _ => .error .filter
  | ':' :: _ => .error .slice
  | c :: rest =>
    if c = '-' || c.isDigit then readIndex (c :: rest) else .error (.unexpectedInBrackets c)

def readSelectors : Nat → List Char → Except PathFault (List Selector × List Char)
  | 0, _ => .error .openBracket
  | fuel + 1, cs => do
    let (first, rest) ← readSelector (cs.dropWhile Text.isBlank)
    match rest.dropWhile Text.isBlank with
    | ']' :: rest => return ([first], rest)
    | ',' :: rest =>
      let (more, rest) ← readSelectors fuel rest
      return (first :: more, rest)
    | ':' :: _ => throw .slice
    | c :: _ => throw (.unexpectedInBrackets c)
    | [] => throw .openBracket

/-- One segment that starts with a point or a bracket. `length` is the length of the whole path. -/
def readSegment (length : Nat) (cs : List Char) : Except PathFault (Segment × List Char) := do
  match cs with
  | '.' :: '.' :: '[' :: rest =>
    let (chosen, rest) ← readSelectors (rest.length + 1) rest
    return (⟨true, chosen⟩, rest)
  | '.' :: '.' :: rest =>
    let (chosen, rest) ← readMember (length - rest.length) rest
    return (⟨true, [chosen]⟩, rest)
  | '.' :: rest =>
    let (chosen, rest) ← readMember (length - rest.length) rest
    return (⟨false, [chosen]⟩, rest)
  | '[' :: rest =>
    let (chosen, rest) ← readSelectors (rest.length + 1) rest
    return (⟨false, chosen⟩, rest)
  | c :: rest => throw (.unexpected c (length - (c :: rest).length))
  | [] => throw .empty

/-- The segments of a text that is no longer than `fuel`. -/
def readSegmentsFrom (length : Nat) : Nat → List Char → Except PathFault (List Segment)
  | _, [] => .ok []
  | 0, _ => .ok []
  | fuel + 1, cs => do
    let (first, rest) ← readSegment length cs
    return first :: (← readSegmentsFrom length fuel rest)

/-- The segments of a path without white space around it. The root sign may be left out, and so may the
point before a first name. -/
def readSegments (cs : List Char) : Except PathFault (List Segment) :=
  match cs with
  | [] => .error .empty
  | '$' :: rest => readSegmentsFrom cs.length cs.length rest
  | '.' :: _ | '[' :: _ => readSegmentsFrom cs.length cs.length cs
  | cs => do
    let (chosen, rest) ← readMember 0 cs
    return ⟨false, [chosen]⟩ :: (← readSegmentsFrom cs.length cs.length rest)

def parse (source : String) : Except PathFault Path :=
  (readSegments (Text.trimmed source.toList)).map fun segments => ⟨source, segments⟩

end Path
end Relay.Json
