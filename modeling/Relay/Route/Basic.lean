import Relay.Rule.Basic

/-!
# Routes

A route says which paths it is for and what is done to the exchanges on them. Its description,
destination and direction are handed on and decide nothing.
-/

namespace Relay

inductive Direction where
  | incoming
  | outgoing
  deriving Repr, DecidableEq

def Direction.text : Direction → String
  | incoming => "Incoming"
  | outgoing => "Outgoing"

structure Route where
  id : String := ""
  description : String := ""
  path : String := ""
  destination : String := ""
  direction : Direction := .incoming
  requestRules : List Rule := []
  responseRules : List Rule := []
  deriving Repr

namespace Route

def new (id path : String) : Route := { id := id, path := path }

def addRequestRule (rule : Rule) (route : Route) : Route :=
  { route with requestRules := route.requestRules ++ [rule] }

def addResponseRule (rule : Rule) (route : Route) : Route :=
  { route with responseRules := route.responseRules ++ [rule] }

def hasResponseRules (route : Route) : Bool := !route.responseRules.isEmpty

def eq (a b : Route) : Bool :=
  a.id == b.id && a.description == b.description && a.path == b.path &&
    a.destination == b.destination && a.direction == b.direction &&
    a.requestRules == b.requestRules && a.responseRules == b.responseRules

instance : BEq Route := ⟨eq⟩

end Route
end Relay
