import Relay.Json.Number
import Relay.Text.Quoted

/-!
# Errors of reading

What can be wrong with a text that should be a document, or a document of a given shape, in the
order in which the text is read.
-/

namespace Relay

/-- What a shape met where it expected something else. -/
inductive Found where
  | null
  | bool (b : Bool)
  | num (n : Json.Number)
  | str (s : String)
  | sequence
  | map
  deriving Repr, DecidableEq

def Found.text : Found → String
  | null => "null"
  | bool b => "boolean `" ++ (if b then "true" else "false") ++ "`"
  | num (.whole n) => "integer `" ++ Text.intText n ++ "`"
  | num (.real x) => "floating point `" ++ (Json.Number.real x).text ++ "`"
  | str s => "string " ++ Text.quoted s
  | sequence => "sequence"
  | map => "map"

/-- How a well-formed value can fail to have its shape. -/
inductive ShapeError where
  | missingField (name : String)
  | duplicateField (name : String)
  | unknownField (name : String) (expected : List String)
  | unknownVariant (name : String) (expected : List String)
  | invalidType (found : Found) (expected : String)
  | invalidValue (found : Found) (expected : String)
  | invalidLength (length : Nat) (expected : String)
  deriving Repr, DecidableEq

def ticked (name : String) : String := "`" ++ name ++ "`"

def oneOf : List String → String
  | [] => "there are none"
  | [only] => "expected " ++ ticked only
  | [one, other] => "expected " ++ ticked one ++ " or " ++ ticked other
  | names => "expected one of " ++ String.intercalate ", " (names.map ticked)

def ShapeError.message : ShapeError → String
  | missingField name => "missing field " ++ ticked name
  | duplicateField name => "duplicate field " ++ ticked name
  | unknownField name expected => "unknown field " ++ ticked name ++ ", " ++ oneOf expected
  | unknownVariant name expected => "unknown variant " ++ ticked name ++ ", " ++ oneOf expected
  | invalidType found expected => "invalid type: " ++ found.text ++ ", expected " ++ expected
  | invalidValue found expected => "invalid value: " ++ found.text ++ ", expected " ++ expected
  | invalidLength length expected =>
    "invalid length " ++ Text.natText length ++ ", expected " ++ expected

namespace Json

/-- Why a text is not a document, or not one of the wanted shape. -/
inductive ReadError where
  | endInValue
  | endInList
  | endInObject
  | endInString
  | expectedColon
  | expectedListEnd
  | expectedObjectEnd
  | expectedWord
  | expectedValue
  | keyNotString
  | trailingComma
  | trailingText
  | invalidNumber
  | numberOutOfRange
  | invalidEscape
  | unpairedSurrogate
  | unfinishedSurrogate
  | controlCharacter
  | tooDeep
  | shape (error : ShapeError)
  deriving Repr, DecidableEq

namespace ReadError

inductive Category where
  | syntactic
  | unfinished
  | data
  deriving Repr, DecidableEq

/-- A text that stops early is unfinished; a value of the wrong shape is a matter of its data. -/
def category : ReadError → Category
  | endInValue | endInList | endInObject | endInString => .unfinished
  | shape _ => .data
  | _ => .syntactic

/-- What is wrong, without the line and the column at which it is found. -/
def message : ReadError → String
  | endInValue => "EOF while parsing a value"
  | endInList => "EOF while parsing a list"
  | endInObject => "EOF while parsing an object"
  | endInString => "EOF while parsing a string"
  | expectedColon => "expected `:`"
  | expectedListEnd => "expected `,` or `]`"
  | expectedObjectEnd => "expected `,` or `\x7d`"
  | expectedWord => "expected ident"
  | expectedValue => "expected value"
  | keyNotString => "key must be a string"
  | trailingComma => "trailing comma"
  | trailingText => "trailing characters"
  | invalidNumber => "invalid number"
  | numberOutOfRange => "number out of range"
  | invalidEscape => "invalid escape"
  | unpairedSurrogate => "lone leading surrogate in hex escape"
  | unfinishedSurrogate => "unexpected end of hex escape"
  | controlCharacter => "control character (\\u0000-\\u001F) found while parsing a string"
  | tooDeep => "recursion limit exceeded"
  | shape error => error.message

end ReadError
end Json
end Relay
