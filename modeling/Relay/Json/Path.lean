import Relay.Json.Location

/-!
# Path expressions

A path expression names nodes of a document. It is a list of segments; each segment leads from a node
to some of its children, or, when it is recursive, to some children of any node below it. `locate` gives
the locations that a path names, in the order in which the segments meet them, each once.
-/

namespace Relay.Json

inductive Selector where
  | name (key : String)
  | index (i : Int)
  | wildcard
  deriving Repr, DecidableEq

structure Segment where
  recursive : Bool
  selectors : List Selector
  deriving Repr, DecidableEq

/-- A path expression as written and as understood. -/
structure Path where
  source : String
  segments : List Segment
  deriving Repr, DecidableEq

/-- The position that an index selects in a list of `length` elements; a negative one counts from the
end. -/
def position (i : Int) (length : Nat) : Option Nat :=
  let resolved := if i < 0 then (length : Int) + i else i
  if 0 ≤ resolved then some resolved.toNat else none

def Selector.choose (selector : Selector) (node : Json) : List (Step × Json) :=
  match selector, node with
  | .name key, .obj members =>
    match Members.get? key members with
    | some child => [(.key key, child)]
    | none => []
  | .index i, .arr items =>
    match position i items.length with
    | some i =>
      match items[i]? with
      | some child => [(.index i, child)]
      | none => []
    | none => []
  | .wildcard, node => node.children
  | _, _ => []

/-- The children of a node that any of the selectors chooses, selector by selector. -/
def selectAll (selectors : List Selector) (here : Location × Json) : List (Location × Json) :=
  selectors.flatMap fun selector =>
    (selector.choose here.2).map fun next => (here.1 ++ [next.1], next.2)

def Segment.follow (segment : Segment) (here : Location × Json) : List (Location × Json) :=
  let starts := if segment.recursive then descendants here.1 here.2 else [here]
  starts.flatMap (selectAll segment.selectors)

/-- The nodes that the segments lead to, with repetitions. -/
def follow (segments : List Segment) (root : Json) : List (Location × Json) :=
  segments.foldl (fun nodes segment => nodes.flatMap segment.follow) [([], root)]

/-- The locations that a path names, each at its first meeting. -/
def Path.locate (path : Path) (root : Json) : List Location :=
  ((follow path.segments root).map (·.1)).eraseDups

/-- Whether a location ends at a member of an object. -/
def Location.isMember (location : Location) : Bool :=
  match location.getLast? with
  | some (.key _) => true
  | _ => false

end Relay.Json
