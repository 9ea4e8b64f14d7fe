import Relay.Http.Headers
import Relay.Http.Uri
import Relay.Identity.Uuid

/-!
# Messages

Requests and responses with their whole bodies.
-/

namespace Relay.Http

inductive Version where
  | http09
  | http10
  | http11
  | http2
  | http3
  deriving Repr, DecidableEq

/-- A request. The identifier is known once the exchange has one. -/
structure Request where
  method : String
  uri : Uri
  version : Version := .http11
  headers : Headers
  body : ByteArray
  id : Option Uuid := none

structure Response where
  status : Nat
  version : Version := .http11
  headers : Headers
  body : ByteArray

end Relay.Http
