import Relay.Route.Basic

/-!
# Settings

All that is configured: how exchanges are handled, what is logged, and the routes.
-/

namespace Relay

structure GatewaySettings where
  /-- An identifier that a request brings is used for its exchange. -/
  trustIncomingIds : Bool := false
  /-- Bodies are reported at the most verbose level. -/
  logBodies : Bool := false
  /-- The largest body, in bytes, that is taken into memory. -/
  maxBodyBytes : Nat := 10485760
  deriving Repr, DecidableEq

inductive LogFormat where
  | json
  | pretty
  deriving Repr, DecidableEq

def LogFormat.text : LogFormat → String
  | json => "json"
  | pretty => "pretty"

structure LogSection where
  level : String := "info"
  format : LogFormat := .json
  ansi : Bool := false
  location : Bool := false
  deriving Repr, DecidableEq

structure Settings where
  gateway : GatewaySettings := {}
  logging : LogSection := {}
  routes : List Route := []
  deriving Repr

end Relay
