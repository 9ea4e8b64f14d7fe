import Relay.Route.Basic
import Relay.Route.Pattern
import Relay.Telemetry.Event

/-!
# The table of routes

An ordered list of routes with their patterns. A path resolves to the first route whose pattern matches
it.
-/

namespace Relay.Route

structure Entry where
  pattern : Pattern
  route : Route
  deriving Repr

structure Table where
  entries : List Entry
  deriving Repr

structure TableError where
  routeId : String
  error : PatternError
  deriving Repr, DecidableEq

def TableError.message (e : TableError) : String :=
  "route '" ++ e.routeId ++ "': " ++ e.error.message

def Entry.ofRoute (compiles : Pattern → Bool) (route : Route) : Except TableError Entry :=
  match Pattern.parse compiles route.path with
  | .ok pattern => .ok ⟨pattern, route⟩
  | .error error => .error ⟨route.id, error⟩

/-- What is reported when a route is entered. -/
def Entry.event (entry : Entry) : Event :=
  .routeRegistered entry.route.id entry.route.path entry.pattern.kind.text

namespace Table

def empty : Table := ⟨[]⟩

/-- The table of some routes, in their order; the first route that cannot be entered is the error. -/
def ofRoutes (compiles : Pattern → Bool) (routes : List Route) : Except TableError Table :=
  (routes.mapM (Entry.ofRoute compiles)).map Table.mk

/-- What is reported while a table is built: the routes up to the first that cannot be entered. -/
def buildEvents (compiles : Pattern → Bool) : List Route → List Event
  | [] => []
  | route :: rest =>
    match Entry.ofRoute compiles route with
    | .ok entry => entry.event :: buildEvents compiles rest
    | .error _ => []

def size (table : Table) : Nat := table.entries.length

def routes (table : Table) : List Route := table.entries.map (·.route)

def resolve (table : Table) (path : String) : Option Route :=
  (table.entries.find? (·.pattern.matches path)).map (·.route)

def flows (table : Table) (direction : Direction) (path : String) : Bool :=
  (table.resolve path).map (·.direction) == some direction

end Table
end Relay.Route
