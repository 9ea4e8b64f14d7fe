import Relay.Settings.Environment
import Relay.Telemetry.Filter
import Relay.Text.Blank

/-!
# Settings of the log

What the log lets through and how its lines look. A process has one log; it is installed once.
-/

namespace Relay

structure LogSettings where
  enabled : Bool := true
  level : String := "info"
  json : Bool := true
  ansi : Bool := false
  fileAndLine : Bool := false
  threadIds : Bool := false
  target : Bool := true
  deriving Repr, DecidableEq

inductive LogError where
  | invalidFilter (directives : String)
  | alreadyInstalled
  deriving Repr, DecidableEq

def LogError.message : LogError → String
  | invalidFilter directives => "Invalid log filter '" ++ directives ++ "'"
  | alreadyInstalled =>
    "Failed to initialize logging: a global default trace dispatcher has already been set"

namespace LogSettings

def levelVariable : String := "HERMES_LOG"

/-- Readable lines in colour, with the places they come from. -/
def development : LogSettings :=
  { level := "debug", json := false, ansi := true, fileAndLine := true }

def ofSection (s : LogSection) : LogSettings :=
  { level := s.level, json := s.format = .json, ansi := s.ansi, fileAndLine := s.location }

/-- The settings with the level that the environment sets, unless it is blank. -/
def withEnvironment (environment : Environment) (settings : LogSettings) : LogSettings :=
  match (environment.value? levelVariable).filter (!Text.isBlankText ·) with
  | some level => { settings with level := level }
  | none => settings

def filterOf (directives : String) : Except LogError Filter :=
  match Filter.parse directives with
  | some filter => .ok filter
  | none => .error (.invalidFilter directives)

/-- Installs a log, given the one that is installed already. Nothing is installed if the log is
disabled. -/
def install (settings : LogSettings) (installed : Option Filter) :
    Except LogError (Option Filter) := do
  if !settings.enabled then return installed
  let filter ← filterOf settings.level
  if installed.isSome then throw .alreadyInstalled
  return some filter

end LogSettings
end Relay
