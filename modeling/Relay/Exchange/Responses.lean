import Relay.Exchange.RuleRun
import Relay.Exchange.Stage
import Relay.Route.Table

/-!
# The transformation of responses

The path of the request decides, once more, whose rules change the body of the response. A body that is
too large or no text is handed back as it came.
-/

namespace Relay.Exchange
open Http

def finishResponse (response : Response) (body : Body) : Response :=
  { response with headers := body.frame response.headers, body := body.bytes }

def transformResponse (table : Route.Table) (limit : Nat) (clock : Nat → Instant) (path : String)
    (id : Uuid) (response : Response) : Run Response := do
  match Body.collect response.body limit with
  | .error large =>
    Run.report (.responseTooLarge id large.size large.limit)
    return response
  | .ok body =>
    match table.resolve path with
    | none => return response
    | some route =>
      if !route.hasResponseRules then return response
      else if body.text?.isNone then
        Run.report (.responseNotText id route.id)
        return response
      else
        let body ← runResponseRules ⟨id, route.id, .response⟩ clock 0 route.responseRules body
        return finishResponse response body

def responseStage (table : Route.Table) (limit : Nat) : Stage where
  name := "response_transform"
  process around next context request := do
    let (context, response) ← next context request
    let response ← transformResponse table limit around.clock request.uri.path
      context.correlationId response
    return (context, response)

end Relay.Exchange
