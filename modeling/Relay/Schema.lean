import Relay.Json.Skip
import Relay.Toml.Value

/-!
# Shapes of values

A schema says how a value of a type is read, from the tokens of a JSON text and from a TOML value alike.
From tokens a value is read while the text goes by, so the first error in the order of the text is
the one that is reported.
-/

namespace Relay

open Json (Reading Token ReadError)

/-- How values of a type are read. From tokens, lists and objects may nest as deep as the number
says. -/
structure Schema (α : Type) where
  json : Nat → Reading α
  toml : Toml → Except TomlError α

namespace Schema

variable {α β σ : Type}

def mismatch (expected : String) : List Token → ReadError
  | [] => .endInValue
  | .null :: _ => .shape (.invalidType .null expected)
  | .bool b :: _ => .shape (.invalidType (.bool b) expected)
  | .num (.ok n) :: _ => .shape (.invalidType (.num n) expected)
  | .num (.error e) :: _ => e
  | .str (.ok s) :: _ => .shape (.invalidType (.str s) expected)
  | .str (.error e) :: _ => e
  | .listOpen :: _ => .shape (.invalidType .sequence expected)
  | .mapOpen :: _ => .shape (.invalidType .map expected)
  | .brokenString e _ :: _ => e
  | .broken e _ :: _ => e
  | _ => .expectedValue

def tomlMismatch (expected : String) (v : Toml) : TomlError :=
  .shape (.invalidType v.found expected)

def map (f : α → β) (s : Schema α) : Schema β where
  json depth tokens := (s.json depth tokens).map fun (x, rest) => (f x, rest)
  toml v := (s.toml v).map f

def text : Schema String where
  json
    | _, .str (.ok s) :: rest => .ok (s, rest)
    | _, tokens => .error (mismatch "a string" tokens)
  toml
    | .str s => .ok s
    | v => .error (tomlMismatch "a string" v)

def flag : Schema Bool where
  json
    | _, .bool b :: rest => .ok (b, rest)
    | _, tokens => .error (mismatch "a boolean" tokens)
  toml
    | .bool b => .ok b
    | v => .error (tomlMismatch "a boolean" v)

/-- A number of things: a whole number that is not negative. -/
def count : Schema Nat where
  json
    | _, .num (.ok (.whole n)) :: rest =>
      if 0 ≤ n then .ok (n.toNat, rest)
      else .error (.shape (.invalidValue (.num (.whole n)) "usize"))
    | _, tokens => .error (mismatch "usize" tokens)
  toml
    | .int n =>
      if 0 ≤ n then .ok n.toNat else .error (.shape (.invalidValue (.num (.whole n)) "usize"))
    | v => .error (tomlMismatch "usize" v)

def optional (s : Schema α) : Schema (Option α) where
  json
    | _, .null :: rest => .ok (none, rest)
    | depth, tokens => (s.json depth tokens).map fun (x, rest) => (some x, rest)
  toml v := (s.toml v).map some

def listOf (s : Schema α) : Schema (List α) where
  json
    | 0, .listOpen :: _ => .error .tooDeep
    | depth + 1, .listOpen :: rest => Json.items (s.json depth) rest
    | _, tokens => .error (mismatch "a sequence" tokens)
  toml
    | .arr items => items.mapM s.toml
    | v => .error (tomlMismatch "a sequence" v)

def members : Schema (Json.Members Json) where
  json
    | 0, .mapOpen :: _ => .error .tooDeep
    | depth + 1, .mapOpen :: rest => Json.members (Json.bindMember (Json.value depth)) [] rest
    | _, tokens => .error (mismatch "a map" tokens)
  toml
    | .table entries => .ok (Toml.toJsonEntries entries)
    | .datetime text => .ok [(Toml.datetimeKey, .str text)]
    | v => .error (tomlMismatch "a map" v)

/-! ### Choices -/

def pick (choices : List (String × α)) (name : String) : Except ShapeError α :=
  match choices.lookup name with
  | some x => .ok x
  | none => .error (.unknownVariant name (choices.map (·.1)))

/-- The end of a choice that is written as an object with one member. -/
def endChoice : List Token → Except ReadError (List Token)
  | .null :: .mapClose :: rest => .ok rest
  | [.null] => .error .endInObject
  | .null :: _ => .error .expectedValue
  | tokens => .error (mismatch "unit" tokens)

/-- The error where the only member of an object should begin. -/
def nameMismatch : List Token → ReadError
  | [] => .endInValue
  | .mapClose :: _ => .expectedValue
  | .brokenString e _ :: _ => e
  | _ => .keyNotString

/-- One of some names: a string, or an object whose only member has the name and holds nothing. -/
def choice (choices : List (String × α)) : Schema α where
  json
    | _, .str s :: rest => do
      let x ← (pick choices (← s)).mapError ReadError.shape
      return (x, rest)
    | 0, .mapOpen :: _ => .error .tooDeep
    | _ + 1, .mapOpen :: .str s :: rest => do
      let x ← (pick choices (← s)).mapError ReadError.shape
      let rest ← endChoice (← Json.colon rest)
      return (x, rest)
    | _ + 1, .mapOpen :: tokens => .error (nameMismatch tokens)
    | _, .brokenString e _ :: _ => .error e
    | _, [] => .error .endInValue
    | _, _ => .error .expectedValue
  toml
    | .str s => (pick choices s).mapError TomlError.shape
    | .table [(name, v)] => do
      let x ← (pick choices name).mapError TomlError.shape
      match v with
      | .table [] | .arr [] => return x
      | _ => throw .malformed
    | _ => .error .malformed

/-! ### Records -/

/-- A field of a record: how its value changes the record. -/
structure Field (σ : Type) where
  name : String
  required : Bool
  value : Schema (σ → σ)

def field (name : String) (s : Schema α) (set : α → σ → σ) : Field σ :=
  ⟨name, false, s.map set⟩

def requiredField (name : String) (s : Schema α) (set : α → σ → σ) : Field σ :=
  ⟨name, true, s.map set⟩

/-- The record type: what errors call it, whether unknown fields are refused, the record before any
field is read, and the fields in order. -/
structure Record (σ : Type) where
  name : String
  closed : Bool
  blank : σ
  fields : List (Field σ)

namespace Record

def field? (r : Record σ) (name : String) : Option (Field σ) := r.fields.find? (·.name == name)

/-- The error of a name that no field has. -/
def unknown (r : Record σ) (name : String) : ShapeError :=
  .unknownField name (r.fields.map (·.name))

def missing (r : Record σ) (seen : List String) : Option String :=
  (r.fields.find? fun field => field.required && !seen.contains field.name).map (·.name)

def complete (r : Record σ) (read : σ × List String) : Except ShapeError σ :=
  match r.missing read.2 with
  | some name => .error (.missingField name)
  | none => .ok read.1

def readMember (r : Record σ) (depth : Nat) (read : σ × List String) (name : String) :
    Reading (σ × List String) := fun tokens =>
  match r.field? name with
  | some field =>
    if read.2.contains name then .error (.shape (.duplicateField name))
    else do
      let (set, tokens) ← field.value.json depth (← Json.colon tokens)
      return ((set read.1, name :: read.2), tokens)
  | none =>
    if r.closed then .error (.shape (r.unknown name))
    else do
      let tokens ← Json.skip (← Json.colon tokens)
      return (read, tokens)

def expectedLength (r : Record σ) : String :=
  "struct " ++ r.name ++ " with " ++ Text.natText r.fields.length ++ " elements"

/-- The error of a list that ends before its required fields. -/
def tooShort (r : Record σ) (read : Nat) : List (Field σ) → Except ShapeError Unit
  | [] => .ok ()
  | field :: rest =>
    if field.required then .error (.invalidLength read r.expectedLength)
    else tooShort r (read + 1) rest

/-- Reads a record from the items of a list, one for each field in order. -/
def readItems (r : Record σ) (depth : Nat) : List (Field σ) → Nat → σ → Reading σ
  | [], _, record, tokens => (Json.endList tokens).map fun rest => (record, rest)
  | field :: rest, read, record, tokens => do
    match ← Json.nextItem (read == 0) tokens with
    | none =>
      let _ ← (r.tooShort read (field :: rest)).mapError ReadError.shape
      return (record, ← Json.endList tokens)
    | some tokens =>
      let (set, tokens) ← field.value.json depth tokens
      readItems r depth rest (read + 1) (set record) tokens

def readEntry (r : Record σ) (read : σ × List String) (entry : String × Toml) :
    Except TomlError (σ × List String) :=
  match r.field? entry.1 with
  | some field => do
    let set ← field.value.toml entry.2
    return (set read.1, entry.1 :: read.2)
  | none => if r.closed then .error (.shape (r.unknown entry.1)) else .ok read

/-- Reads a record from the elements of an array, one for each field in order. -/
def readElements (r : Record σ) : List (Field σ) → Nat → σ → List Toml → Except TomlError σ
  | [], _, record, _ => .ok record
  | fields, read, record, [] => do
    let _ ← (r.tooShort read fields).mapError TomlError.shape
    return record
  | field :: rest, read, record, v :: vs => do
    let set ← field.value.toml v
    readElements r rest (read + 1) (set record) vs

/-- A record: an object with a member for each field, or a list of the fields in order. -/
def schema (r : Record σ) : Schema σ where
  json
    | 0, .listOpen :: _ => .error .tooDeep
    | 0, .mapOpen :: _ => .error .tooDeep
    | depth + 1, .listOpen :: rest => r.readItems depth r.fields 0 r.blank rest
    | depth + 1, .mapOpen :: rest => do
      let (read, rest) ← Json.members (r.readMember depth) (r.blank, []) rest
      let record ← (r.complete read).mapError ReadError.shape
      return (record, rest)
    | _, tokens => .error (mismatch ("struct " ++ r.name) tokens)
  toml
    | .table entries => do
      let read ← entries.foldlM r.readEntry (r.blank, [])
      (r.complete read).mapError TomlError.shape
    | .datetime text => do
      let read ← r.readEntry (r.blank, []) (Toml.datetimeKey, .str text)
      (r.complete read).mapError TomlError.shape
    | .arr items => r.readElements r.fields 0 r.blank items
    | v => .error (tomlMismatch ("struct " ++ r.name) v)

end Record

def parseJson (s : Schema α) (source : String) : Except ReadError α := do
  Json.finished (← s.json Json.maxDepth (Json.tokens source))

end Schema
end Relay
