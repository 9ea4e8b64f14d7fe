import Relay.Json.Basic
import Relay.Json.Error

/-!
# TOML values

What a TOML document holds. Tables keep their entries in the order of the text.
-/

namespace Relay

/-- A TOML value. A float that is not finite has no number. -/
inductive Toml where
  | str (s : String)
  | int (n : Int)
  | float (x : Option Binary64)
  | bool (b : Bool)
  | datetime (text : String)
  | arr (items : List Toml)
  | table (entries : List (String × Toml))
  deriving Repr, Inhabited

/-- Why a text is no TOML document, or not one of the wanted shape. -/
inductive TomlError where
  | malformed
  | shape (error : ShapeError)
  deriving Repr, DecidableEq

/-- The wording of an error about a name. Other errors have none. -/
def TomlError.message? : TomlError → Option String
  | shape (.missingField name) => some (ShapeError.missingField name).message
  | shape (.unknownField name expected) => some (ShapeError.unknownField name expected).message
  | shape (.unknownVariant name expected) => some (ShapeError.unknownVariant name expected).message
  | _ => none

namespace Toml

/-- The name under which a date stands when it is looked at as a table. -/
def datetimeKey : String := "$__toml_private_datetime"

def found : Toml → Found
  | str s => .str s
  | int n => .num (.whole n)
  | float (some x) => .num (.real x)
  | float none => .null
  | bool b => .bool b
  | arr _ => .sequence
  | datetime _ | table _ => .map

mutual

/-- A TOML value as a document: tables in the order of their names, dates as tables of one entry, null
for a float that is not finite. -/
def toJson : Toml → Json
  | .str s => .str s
  | .int n => .num (.whole n)
  | .float (some x) => .num (.real x)
  | .float none => .null
  | .bool b => .bool b
  | .datetime text => .obj [(datetimeKey, .str text)]
  | .arr items => .arr (toJsonItems items)
  | .table entries => .obj (toJsonEntries entries)

def toJsonItems : List Toml → List Json
  | [] => []
  | v :: rest => toJson v :: toJsonItems rest

def toJsonEntries : List (String × Toml) → Json.Members Json
  | [] => []
  | (k, v) :: rest => Json.Members.insert k (toJson v) (toJsonEntries rest)

end

end Toml
end Relay
