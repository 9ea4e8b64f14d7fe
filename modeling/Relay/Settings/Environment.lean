import Relay.Settings.Basic
import Relay.Settings.Error
import Relay.Telemetry.Event
import Relay.Text.Upper

/-!
# Overrides from the environment

Variables of the environment whose names start with a prefix change single settings. Each of seven
settings has one variable; other variables with the prefix are reported and change nothing. The
variables are taken in the order of their names, so the order in which they are listed does not
matter.
-/

namespace Relay

/-- The variables of an environment. Each name stands once. -/
abbrev Environment := List (String × String)

inductive Setting where
  | trustIncomingIds
  | logBodies
  | maxBodyBytes
  | level
  | format
  | ansi
  | location
  deriving Repr, DecidableEq

namespace Setting

def all : List Setting := [trustIncomingIds, logBodies, maxBodyBytes, level, format, ansi, location]

/-- The section of a setting and its key there, as variables name them. -/
def place : Setting → String × String
  | trustIncomingIds => ("GATEWAY", "TRUST_INCOMING_CORRELATION_ID")
  | logBodies => ("GATEWAY", "LOG_BODIES")
  | maxBodyBytes => ("GATEWAY", "MAX_BODY_BYTES")
  | level => ("LOGGING", "LEVEL")
  | format => ("LOGGING", "FORMAT")
  | ansi => ("LOGGING", "ANSI_ENABLED")
  | location => ("LOGGING", "INCLUDE_LOCATION")

/-- The setting that the parts of a name stand for: a section and a key, and nothing else. -/
def ofParts? : List String → Option Setting
  | [part, key] => all.find? fun setting => setting.place = (part, key)
  | _ => none

def truthWords : List (String × Bool) := [
  ("true", true), ("1", true), ("yes", true), ("on", true),
  ("false", false), ("0", false), ("no", false), ("off", false)]

def formatWords : List (String × LogFormat) := [("json", .json), ("pretty", .pretty)]

/-- The value of a word, its letters in either case. No other character has one of these letters as
its lower case. -/
def word {α : Type} (words : List (String × α)) (s : String) : Option α :=
  words.lookup (s.map Char.toLower)

def maxCount : Nat := 18446744073709551615

def boolean (s : String) : Except WantedValue Bool :=
  (word truthWords s).elim (.error .boolean) .ok

def integer (s : String) : Except WantedValue Nat :=
  ((Text.readCount s.toList).filter (· ≤ maxCount)).elim (.error .integer) .ok

def logFormat (s : String) : Except WantedValue LogFormat :=
  (word formatWords s).elim (.error .format) .ok

/-- Settings with one of them set to the value of a text. -/
def apply (setting : Setting) (value : String) (s : Settings) : Except WantedValue Settings :=
  match setting with
  | trustIncomingIds =>
    (boolean value).map fun x => { s with gateway := { s.gateway with trustIncomingIds := x } }
  | logBodies =>
    (boolean value).map fun x => { s with gateway := { s.gateway with logBodies := x } }
  | maxBodyBytes =>
    (integer value).map fun x => { s with gateway := { s.gateway with maxBodyBytes := x } }
  | level => .ok { s with logging := { s.logging with level := value } }
  | format => (logFormat value).map fun x => { s with logging := { s.logging with format := x } }
  | ansi => (boolean value).map fun x => { s with logging := { s.logging with ansi := x } }
  | location => (boolean value).map fun x => { s with logging := { s.logging with location := x } }

end Setting

namespace Environment

def value? (environment : Environment) (name : String) : Option String := environment.lookup name

def sorted (environment : Environment) : Environment :=
  environment.mergeSort fun a b => a.1 ≤ b.1

/-- A text without the text at its start. -/
def dropStart : List Char → List Char → Option (List Char)
  | [], cs => some cs
  | _ :: _, [] => none
  | p :: ps, c :: cs => if p = c then dropStart ps cs else none

/-- The end of a name behind a prefix and two underscores. -/
def ending (start name : String) : Option String :=
  (dropStart (start.toList ++ ['_', '_']) name.toList).map String.ofList

/-- The parts of a text between double underscores. -/
def parts : List Char → List (List Char)
  | [] => [[]]
  | [c] => [[c]]
  | c :: d :: cs =>
    if c = '_' ∧ d = '_' then [] :: parts cs
    else
      match parts (d :: cs) with
      | [] => [[c]]
      | first :: rest => (c :: first) :: rest

def setting? (start name : String) : Option Setting :=
  (ending start name).bind fun rest => Setting.ofParts? ((parts rest.toList).map String.ofList)

def override (start : String) (s : Settings) (entry : String × String) :
    Except SettingsError Settings :=
  match setting? start entry.1 with
  | some setting => (setting.apply entry.2 s).mapError (SettingsError.override entry.1 ·)
  | none => .ok s

/-- Settings as the variables with a prefix override them. -/
def overrideAll (environment : Environment) (start : String) (s : Settings) :
    Except SettingsError Settings :=
  environment.sorted.foldlM (override start) s

/-- What is reported about a variable that has the prefix and overrides nothing. -/
def overrideEvent (start : String) (entry : String × String) : Option Event :=
  if (ending start entry.1).isSome && (setting? start entry.1).isNone then
    some (.unknownVariable entry.1)
  else none

/-- What is reported while variables are taken in order, up to the first that fails. -/
def overrideEventsOf (start : String) (s : Settings) : Environment → List Event
  | [] => []
  | entry :: rest =>
    (overrideEvent start entry).toList ++
      match override start s entry with
      | .ok s => overrideEventsOf start s rest
      | .error _ => []

def overrideEvents (environment : Environment) (start : String) (s : Settings) : List Event :=
  overrideEventsOf start s environment.sorted

end Environment
end Relay
