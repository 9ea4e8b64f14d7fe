import Relay.Route.Basic
import Relay.Rule.Wire

/-!
# Routes as they are written

A written route must have an id and a path. All other fields may be missing when it is read, and none
is when it is written.
-/

namespace Relay.Route
open Schema

def directions : List (String × Direction) :=
  [("Incoming", .incoming), ("Outgoing", .outgoing)]

def record : Record Route where
  name := "RouteDefinition"
  closed := false
  blank := {}
  fields := [
    requiredField "RouteId" text fun x r => { r with id := x },
    field "Description" text fun x r => { r with description := x },
    requiredField "MatchPath" text fun x r => { r with path := x },
    field "DestinationPrefix" text fun x r => { r with destination := x },
    field "Direction" (choice directions) fun x r => { r with direction := x },
    field "Transformations" (listOf Rule.schema) fun x r => { r with requestRules := x },
    field "ResponseTransformations" (listOf Rule.schema) fun x r => { r with responseRules := x }]

def schema : Schema Route := record.schema

def toJson (route : Route) : Json :=
  .obj [
    ("RouteId", .str route.id),
    ("Description", .str route.description),
    ("MatchPath", .str route.path),
    ("DestinationPrefix", .str route.destination),
    ("Direction", .str route.direction.text),
    ("Transformations", .arr (route.requestRules.map Rule.toJson)),
    ("ResponseTransformations", .arr (route.responseRules.map Rule.toJson))]

end Relay.Route
