import Relay.Http.Message
import Relay.Http.Query
import Relay.Rule.Outcome

/-!
# Rules on requests

A request rule looks at the headers, the target and the body of a request, and may change one of them.
-/

namespace Relay
open Http

/-- The parts of a request that rules work on. The body is missing when it is not held in memory. -/
structure RequestDraft where
  uri : Uri
  headers : Headers
  body : Option Body

namespace Rule

def requireHeader (name : String) : RuleAction RequestDraft Outcome := do
  if (← get).headers.has name then return .unchanged
  throw (.missingHeader name)

/-- Makes a value the only one of a header. -/
def setHeader (rule : Rule) (name value : String) : RuleAction RequestDraft Outcome := do
  let header ← match HeaderName.parse name with
    | some header => pure header
    | none => throw (.failed rule.label ("invalid header name '" ++ name ++
        "': invalid HTTP header name"))
  let bytes ← match headerValue? value.toUTF8 with
    | some bytes => pure bytes
    | none => throw (.failed rule.label ("invalid value for '" ++ name ++
        "': failed to parse header value"))
  modify fun draft => { draft with headers := draft.headers.insert header bytes }
  return .changed

def setQueryParam (rule : Rule) (name value : String) : RuleAction RequestDraft Outcome := do
  let uri := (← get).uri
  let query := (Query.parse (uri.query.getD "")).set name value
  let uri ← (uri.withQuery query.render).mapError fun error =>
    RuleError.failed rule.label error.message
  modify fun draft => { draft with uri := uri }
  return .changed

/-- Works on the body of a request. A request whose body is not in memory stays as it is. -/
def onHeldBody (action : RuleAction Body Outcome) : RuleAction RequestDraft Outcome := do
  match (← get).body with
  | none => return .unchanged
  | some body =>
    let (result, body) := action.on body
    modify fun draft => { draft with body := some body }
    result

def requestEdit : Rule → Option Json.Edit
  | modifyJsonBody (some path) expected (some value) => some (.replace path expected value)
  | maskSensitiveData (path :: paths) => some (.mask (path :: paths))
  | removeJsonField (some path) => some (.remove path)
  | renameJsonField (some old) (some new) => some (.rename old new)
  | _ => none

def forRequests : Rule → Bool
  | injectMetadata .. | modifyJsonValue .. | unknown _ => false
  | _ => true

def onRequest (rule : Rule) : RuleAction RequestDraft Outcome :=
  match rule with
  | validateHeader (some name) true => requireHeader name
  | addHeader (some name) (some value) => rule.setHeader name value
  | modifyQueryParam (some name) (some value) => rule.setQueryParam name value
  | rule =>
    match rule.requestEdit with
    | some edit => onHeldBody (rule.editBody edit)
    | none => return if rule.forRequests then .unchanged else .unsupported

def requestEvents (rule : Rule) (draft : RequestDraft) : List Event :=
  match rule.requestEdit, draft.body with
  | some edit, some body => rule.editEvents edit body
  | _, _ => []

end Rule
end Relay
