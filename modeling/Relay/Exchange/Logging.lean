import Relay.Exchange.Stage

/-!
# The log of an exchange

One event on the way in and one on the way out. Of headers only the names are reported; bodies only on
demand, at the most verbose level.
-/

namespace Relay.Exchange
open Http

def showsBodies (bodies : Bool) (verbosity : Verbosity) : Bool :=
  bodies && Verbosity.records verbosity .trace

def loggingStage (bodies : Bool) : Stage where
  name := "exchange_logging"
  process around next context request := do
    let id := context.correlationId
    let shown := showsBodies bodies around.verbosity
    Run.report (.requestArrived id request.method request.uri.path (request.uri.query.getD "")
      (request.headers.names.map (·.text)) request.body.size)
    if shown then Run.report (.requestBody id (Text.lossy request.body))
    let (context, response) ← next context request
    Run.report (.responseLeaving id context.routeId response.status response.body.size)
    if shown then Run.report (.responseBody id (Text.lossy response.body))
    return (context, response)

end Relay.Exchange
