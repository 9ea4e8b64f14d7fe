import Relay.Exchange.Stage

/-!
# The identity of an exchange

Every exchange has one identifier: a fresh one or, if incoming ones are trusted, the one that its request
brings. The context, the forwarded request and the response carry it.
-/

namespace Relay.Exchange
open Http

/-- The identifier that a request brings, in the first value of its header. -/
def broughtId (request : Request) : Option Uuid :=
  match request.headers.values .correlationId with
  | value :: _ => (visibleText value).bind Uuid.parse
  | [] => none

def chosenId (trust : Bool) (fresh : Uuid) (request : Request) : Uuid :=
  if trust then (broughtId request).getD fresh else fresh

def identityStage (trust : Bool) : Stage where
  name := "correlation_id"
  process around next context request := do
    let id := chosenId trust around.freshId request
    let (context, response) ← next { context with correlationId := id } { request with id := some id }
    return (context,
      { response with headers := response.headers.insert .correlationId id.text.toUTF8 })

end Relay.Exchange
