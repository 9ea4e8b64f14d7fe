import Relay.Exchange.RuleRun
import Relay.Exchange.Stage
import Relay.Route.Table

/-!
# The transformation of requests

The path of a request decides its route, and the rules of the route change the request before it is
handed on. The body is taken into memory only if a rule may touch it. A request that lacks a required
header is answered at once.
-/

namespace Relay.Exchange
open Http

/-- The body of a request as rules see it, if any rule may touch it and it is not too large. -/
def bufferFor (rules : List Rule) (bytes : ByteArray) (limit : Nat) :
    Option (Except Oversized Body) :=
  if rules.any (·.touchesBody) then some (Body.collect bytes limit) else none

def heldBody (rules : List Rule) (bytes : ByteArray) (limit : Nat) : Option Body :=
  match bufferFor rules bytes limit with
  | some (.ok body) => some body
  | _ => none

/-- The parts of a request that the rules of a route work on, as the first of them finds them. -/
def draftOf (rules : List Rule) (limit : Nat) (request : Request) : RequestDraft :=
  ⟨request.uri, request.headers, heldBody rules request.body limit⟩

/-- The request that a draft stands for. Without a body in memory the bytes go through as they came. -/
def finishRequest (request : Request) (draft : RequestDraft) : Request :=
  match draft.body with
  | some body =>
    { request with uri := draft.uri, headers := body.frame draft.headers, body := body.bytes }
  | none => { request with uri := draft.uri, headers := draft.headers }

def requestStage (table : Route.Table) (limit : Nat) : Stage where
  name := "request_transform"
  process _ next context request := do
    match table.resolve request.uri.path with
    | none =>
      Run.report (.noRoute context.correlationId request.uri.path)
      next context request
    | some route =>
      Run.count (.routeMatched route.id)
      let context := { context with route := some route }
      let scope : RuleScope := ⟨context.correlationId, route.id, .request⟩
      Run.report (.routeMatched context.correlationId route.id route.requestRules.length)
      if let some (.error large) := bufferFor route.requestRules request.body limit then
        Run.report (.requestTooLarge context.correlationId route.id large.size large.limit)
      match ← runRequestRules scope route.requestRules (draftOf route.requestRules limit request) with
      | .ok draft => next context (finishRequest request draft)
      | .error error =>
        Run.count (.requestAborted route.id)
        return (context, Response.ofError error.status error.code error.message)

end Relay.Exchange
