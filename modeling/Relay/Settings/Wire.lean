import Relay.Route.Wire
import Relay.Settings.Basic

/-!
# Settings as they are written

Every section and every field may be missing and then has its default; fields that are not known are
refused.
-/

namespace Relay
open Schema

namespace GatewaySettings

def record : Record GatewaySettings where
  name := "GatewaySettings"
  closed := true
  blank := {}
  fields := [
    field "trust_incoming_correlation_id" flag fun x s => { s with trustIncomingIds := x },
    field "log_bodies" flag fun x s => { s with logBodies := x },
    field "max_body_bytes" count fun x s => { s with maxBodyBytes := x }]

def toJson (s : GatewaySettings) : Json :=
  .obj [("trust_incoming_correlation_id", .bool s.trustIncomingIds),
    ("log_bodies", .bool s.logBodies),
    ("max_body_bytes", .num (.whole s.maxBodyBytes))]

end GatewaySettings

namespace LogFormat

def names : List (String × LogFormat) := [("json", .json), ("pretty", .pretty)]

end LogFormat

namespace LogSection

def record : Record LogSection where
  name := "LoggingSection"
  closed := true
  blank := {}
  fields := [
    field "level" text fun x s => { s with level := x },
    field "format" (choice LogFormat.names) fun x s => { s with format := x },
    field "ansi_enabled" flag fun x s => { s with ansi := x },
    field "include_location" flag fun x s => { s with location := x }]

def toJson (s : LogSection) : Json :=
  .obj [("level", .str s.level), ("format", .str s.format.text), ("ansi_enabled", .bool s.ansi),
    ("include_location", .bool s.location)]

end LogSection

namespace Settings

def record : Record Settings where
  name := "HermesConfig"
  closed := true
  blank := {}
  fields := [
    field "gateway" GatewaySettings.record.schema fun x s => { s with gateway := x },
    field "logging" LogSection.record.schema fun x s => { s with logging := x },
    field "routes" (listOf Route.schema) fun x s => { s with routes := x }]

def schema : Schema Settings := record.schema

def toJson (s : Settings) : Json :=
  .obj [("gateway", s.gateway.toJson), ("logging", s.logging.toJson),
    ("routes", .arr (s.routes.map Route.toJson))]

end Settings
end Relay
