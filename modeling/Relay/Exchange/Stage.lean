import Relay.Exchange.Run
import Relay.Json.Printer
import Relay.Time.Instant

/-!
# Stages

A stage works on a request, hands it on, and works on the response that comes back. What it needs from
outside is given to it: an identifier that nobody else has, the clock, and the verbosity of the log.
-/

namespace Relay
open Http

/-- What a stage is given from outside. The clock is read again for every rule that asks for the time. -/
structure Surroundings where
  verbosity : Verbosity
  freshId : Uuid
  clock : Nat → Instant

/-- The rest of the way of a request: it gives the context as it is afterwards, and the response. -/
abbrev Handler := Context → Request → Run (Context × Response)

/-- A stage of a pipeline. It hands the request on at most once. -/
structure Stage where
  name : String
  process : Surroundings → Handler → Handler

def errorDocument (code message : String) : Json :=
  .obj [("error", .obj [("code", .str code), ("message", .str message)])]

def Response.ofError (status : Nat) (code message : String) : Response where
  status := status
  headers := Headers.empty.insert .contentType "application/json".toUTF8
  body := (errorDocument code message).render.toUTF8

end Relay
