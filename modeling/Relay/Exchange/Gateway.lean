import Relay.Exchange.Identity
import Relay.Exchange.Logging
import Relay.Exchange.Pipeline
import Relay.Exchange.Requests
import Relay.Exchange.Responses
import Relay.Settings.Validation

/-!
# The gateway

The gateway is the pipeline of four stages over one table of routes. It works on a request, hands it to
a forwarder at most once, and works on the response that comes back.
-/

namespace Relay
open Http

def Forward.destination (forward : Forward) : Option String :=
  forward.context.route.map (·.destination)

def Forward.direction (forward : Forward) : Option Direction :=
  forward.context.route.map (·.direction)

structure Dispatch where
  destination : Option String
  direction : Option Direction
  correlationId : Uuid
  request : Request

def Forward.dispatch (forward : Forward) : Dispatch :=
  ⟨forward.destination, forward.direction, forward.context.correlationId, forward.request⟩

/-- Sends a request on. It gives the response, or nothing if there never is one. -/
abbrev Forwarder := Dispatch → Option Response

def Forwarder.handler (forwarder : Forwarder) : Handler := fun context request =>
  let forward : Forward := ⟨context, request⟩
  ⟨[.forward forward], (forwarder forward.dispatch).map (context, ·)⟩

structure Gateway where
  table : Route.Table
  pipeline : Pipeline

inductive GatewayError where
  | settings (error : SettingsError)
  | table (error : Route.TableError)
  deriving Repr, DecidableEq

namespace Gateway

/-- The four stages: the first three stand before the forwarder, the last one around it. -/
def stages (table : Route.Table) (settings : GatewaySettings) : Pipeline :=
  Pipeline.empty
    |>.addBefore (Exchange.identityStage settings.trustIncomingIds)
    |>.addBefore (Exchange.loggingStage settings.logBodies)
    |>.addBefore (Exchange.requestStage table settings.maxBodyBytes)
    |>.addAround (Exchange.responseStage table settings.maxBodyBytes)

def ofTable (table : Route.Table) (settings : GatewaySettings) : Gateway :=
  ⟨table, stages table settings⟩

section

variable (compiles : Route.Pattern → Bool)

def ofRoutes (routes : List Route) (settings : GatewaySettings) :
    Except Route.TableError Gateway :=
  (Route.Table.ofRoutes compiles routes).map (ofTable · settings)

/-- The gateway of settings, which must be valid. -/
def ofSettings (settings : Settings) : Except GatewayError Gateway := do
  settings.validate.mapError .settings
  (ofRoutes compiles settings.routes settings.gateway).mapError .table

end

def shownNames (names : List String) : String :=
  "[" ++ String.intercalate ", " (names.map Text.quoted) ++ "]"

def buildEvents (compiles : Route.Pattern → Bool) (routes : List Route) (settings : GatewaySettings) :
    List Event :=
  Route.Table.buildEvents compiles routes ++
    match ofRoutes compiles routes settings with
    | .ok gateway =>
      [.gatewayReady gateway.table.size (shownNames gateway.pipeline.stageNames)]
    | .error _ => []

def text (gateway : Gateway) : String :=
  "Gateway \x7b routes: " ++ Text.natText gateway.table.size ++ ", stages: " ++
    shownNames gateway.pipeline.stageNames ++ " \x7d"

/-- Works on a request. The context it starts with has an identifier that no stage is given. -/
def handle (gateway : Gateway) (world : World) (forwarder : Forwarder) (request : Request) :
    Run Response := do
  let context : Context := ⟨world.freshId gateway.pipeline.stages.length, none⟩
  let (_, response) ← gateway.pipeline.process world forwarder.handler context request
  return response

end Gateway
end Relay
