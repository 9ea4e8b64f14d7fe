import Relay.Settings.Basic
import Relay.Settings.Error
import Relay.Text.Blank

/-!
# Validation of settings

Settings are checked from the front to the back, and the first fault is reported. What rules hold is
not checked: a faulty rule fails when it runs.
-/

namespace Relay

/-- The first fault of a route, given the ids of the routes before it. -/
def RouteFault.of (seen : List String) (route : Route) : Option RouteFault :=
  if Text.isBlankText route.id then some .blankId
  else if route.id ∈ seen then some .duplicateId
  else if route.path.toList.head? ≠ some '/' then some (.relativePath route.path)
  else none

namespace Settings

/-- Checks routes, the first of which has an index, given the ids of those before it. -/
def checkRoutes (seen : List String) (index : Nat) : List Route → Except SettingsError Unit
  | [] => .ok ()
  | route :: rest =>
    match RouteFault.of seen route with
    | some fault => .error (.route index route.id fault)
    | none => checkRoutes (route.id :: seen) (index + 1) rest

def validate (s : Settings) : Except SettingsError Unit :=
  if s.gateway.maxBodyBytes = 0 then .error .noBodyLimit
  else if Text.isBlankText s.logging.level then .error .blankLevel
  else checkRoutes [] 0 s.routes

end Settings
end Relay
