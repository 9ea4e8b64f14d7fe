import Relay.Json.Basic

/-!
# Rules

A rule is one step of what a route does to its exchanges. Parts of a rule may be missing; a rule that
lacks a part it needs does nothing.
-/

namespace Relay

inductive Phase where
  | request
  | response
  deriving Repr, DecidableEq

def Phase.text : Phase → String
  | request => "request"
  | response => "response"

inductive Rule where
  | validateHeader (header : Option String) (required : Bool)
  | addHeader (header value : Option String)
  | modifyJsonBody (path expected value : Option String)
  | modifyQueryParam (name value : Option String)
  | maskSensitiveData (paths : List String)
  | removeJsonField (path : Option String)
  | renameJsonField (old new : Option String)
  | injectMetadata (path : Option String) (metadata : Json.Members Json)
  | modifyJsonValue (path expected value : Option String)
  /-- A type of rule that is not known. It is reported and passed over. -/
  | unknown (type : String)
  deriving Repr

namespace Rule

/-- The label of a rule in counters: its type, one label for all unknown types. -/
def label : Rule → String
  | validateHeader .. => "ValidateHeader"
  | addHeader .. => "AddHeader"
  | modifyJsonBody .. => "ModifyJsonBody"
  | modifyQueryParam .. => "ModifyQueryParam"
  | maskSensitiveData .. => "MaskSensitiveData"
  | removeJsonField .. => "RemoveJsonField"
  | renameJsonField .. => "RenameJsonField"
  | injectMetadata .. => "InjectMetadata"
  | modifyJsonValue .. => "ModifyJsonValue"
  | unknown _ => "Unknown"

def type : Rule → String
  | unknown type => type
  | rule => rule.label

def touchesBody : Rule → Bool
  | modifyJsonBody .. | maskSensitiveData .. | removeJsonField .. | renameJsonField ..
  | injectMetadata .. | modifyJsonValue .. => true
  | _ => false

def eq : Rule → Rule → Bool
  | validateHeader h r, validateHeader h' r' => h == h' && r == r'
  | addHeader h v, addHeader h' v' => h == h' && v == v'
  | modifyJsonBody p e v, modifyJsonBody p' e' v' => p == p' && e == e' && v == v'
  | modifyQueryParam n v, modifyQueryParam n' v' => n == n' && v == v'
  | maskSensitiveData ps, maskSensitiveData ps' => ps == ps'
  | removeJsonField p, removeJsonField p' => p == p'
  | renameJsonField o n, renameJsonField o' n' => o == o' && n == n'
  | injectMetadata p m, injectMetadata p' m' => p == p' && Json.obj m == Json.obj m'
  | modifyJsonValue p e v, modifyJsonValue p' e' v' => p == p' && e == e' && v == v'
  | unknown t, unknown t' => t == t'
  | _, _ => false

instance : BEq Rule := ⟨eq⟩

end Rule
end Relay
