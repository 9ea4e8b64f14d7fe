import Relay.Settings.DotEnv
import Relay.Settings.Files
import Relay.Settings.Validation
import Relay.Settings.Wire
import Relay.Toml.Reader

/-!
# Loading of settings

Settings are loaded in steps. A document replaces all settings that there were, and what it leaves out
has its default. The environment is looked at only in the end, with the prefix that was given last.
-/

namespace Relay

inductive DocumentFormat where
  | toml
  | json
  deriving Repr, DecidableEq

/-- The format of a name, letters in either case. -/
def DocumentFormat.ofName? (name : String) : Option DocumentFormat :=
  [("toml", toml), ("json", json)].lookup (name.map Char.toLower)

def Settings.ofDocument (format : DocumentFormat) (text : String) : Except SettingsError Settings :=
  match format with
  | .toml => (Toml.parse text >>= Settings.schema.toml).mapError SettingsError.toml
  | .json => (Settings.schema.parseJson text).mapError SettingsError.json

/-- The settings of a file. It is read before its name is looked at. -/
def Settings.ofFile (files : Files) (path : String) : Except SettingsError Settings := do
  match files.at? path with
  | none => throw (.fileNotFound path)
  | some .unreadable => throw (.unreadable path)
  | some (.file bytes) =>
    match Text.ofBytes? bytes with
    | none => throw (.unreadable path)
    | some text =>
      match (Files.extension path).bind DocumentFormat.ofName? with
      | some format => Settings.ofDocument format text
      | none => throw (.unsupportedFormat path)

inductive LoadStep where
  | defaults
  | file (path : String)
  | optionalFile (path : String)
  | text (content format : String)
  /-- Variables with this prefix override settings; its letters count as capitals. -/
  | overrides (start : String)
  /-- The definitions of the file of variables, if there is one. -/
  | dotEnv
  deriving Repr, DecidableEq

structure Loading where
  settings : Settings := {}
  start : Option String := none
  environment : Environment

namespace Loading

def step (files : Files) (loading : Loading) : LoadStep → Except SettingsError Loading
  | .defaults => .ok { loading with settings := {} }
  | .file path => do return { loading with settings := ← Settings.ofFile files path }
  | .optionalFile path =>
    if (files.at? path).isSome then do
      return { loading with settings := ← Settings.ofFile files path }
    else .ok loading
  | .text content format =>
    match DocumentFormat.ofName? format with
    | some format => do return { loading with settings := ← Settings.ofDocument format content }
    | none => .error (.unsupportedFormat format)
  | .overrides start => .ok { loading with start := some (Text.upper start) }
  | .dotEnv =>
    match files.variables? with
    | some (.file bytes) => do
      return { loading with environment := ← DotEnv.load loading.environment bytes }
    | some .unreadable => .error .dotEnv
    | none => .ok loading

/-- What is reported about a step that has led to `after`. -/
def stepEvents (files : Files) (after : Loading) : LoadStep → List Event
  | .file path => [.fileLoaded path after.settings.routes.length]
  | .optionalFile path =>
    if (files.at? path).isSome then [.fileLoaded path after.settings.routes.length] else []
  | .dotEnv => if files.variables?.isSome then [.dotEnvLoaded] else []
  | _ => []

def overridden (loading : Loading) : Except SettingsError Settings :=
  match loading.start with
  | some start => loading.environment.overrideAll start loading.settings
  | none => .ok loading.settings

def overrideEvents (loading : Loading) : List Event :=
  match loading.start with
  | some start => loading.environment.overrideEvents start loading.settings
  | none => []

/-- The settings as they stand, neither overridden nor validated. -/
def unchecked (loading : Loading) : Settings := loading.settings

/-- The settings in the end, overridden and valid. -/
def finish (loading : Loading) : Except SettingsError Settings := do
  let settings ← loading.overridden
  settings.validate
  return settings

end Loading
end Relay
