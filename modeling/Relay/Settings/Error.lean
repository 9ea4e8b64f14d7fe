import Relay.Json.Error
import Relay.Text.Digits
import Relay.Toml.Value

/-!
# What is wrong with settings

Settings can fail to be found, to be read, or to make sense.
-/

namespace Relay

inductive RouteFault where
  | blankId
  | duplicateId
  /-- The path that the route is for does not start with a slash. -/
  | relativePath (path : String)
  deriving Repr, DecidableEq

def RouteFault.message : RouteFault → String
  | blankId => "RouteId must not be blank"
  | duplicateId => "duplicate route id"
  | relativePath path => "MatchPath must start with '/': '" ++ path ++ "'"

inductive WantedValue where
  | boolean
  | integer
  | format
  deriving Repr, DecidableEq

def WantedValue.text : WantedValue → String
  | boolean => "boolean"
  | integer => "integer"
  | format => "'json' or 'pretty'"

inductive SettingsError where
  | fileNotFound (path : String)
  | unreadable (path : String)
  | toml (error : TomlError)
  | json (error : Json.ReadError)
  | unsupportedFormat (format : String)
  | noBodyLimit
  | blankLevel
  | route (index : Nat) (id : String) (fault : RouteFault)
  | override (name : String) (wanted : WantedValue)
  | dotEnv
  deriving Repr, DecidableEq

/-- The wording of an error, as far as it has one. -/
def SettingsError.message? : SettingsError → Option String
  | fileNotFound path => some ("configuration file not found: " ++ path)
  | unreadable path => some ("cannot read " ++ path)
  | toml error => error.message?
  | json error => some error.message
  | unsupportedFormat format => some ("unsupported configuration format: " ++ format)
  | noBodyLimit => some "invalid value for gateway.max_body_bytes: must be greater than zero"
  | blankLevel => some "invalid value for logging.level: must not be empty"
  | route index id fault =>
    some ("route #" ++ Text.natText index ++ " ('" ++ id ++ "'): " ++ fault.message)
  | override name wanted =>
    some ("environment override " ++ name ++ ": expected " ++ wanted.text)
  | dotEnv => none

end Relay
