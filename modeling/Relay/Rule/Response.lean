import Relay.Rule.Outcome

/-!
# Rules on responses

A response rule edits the body of a response.
-/

namespace Relay.Rule
open Http

/-- The edit that a rule makes of the body of a response at a given time. -/
def responseEdit (now : Instant) : Rule → Option Json.Edit
  | injectMetadata (some path) metadata => some (.inject path metadata now)
  | modifyJsonValue (some path) expected (some value) => some (.replace path expected value)
  | _ => none

def forResponses : Rule → Bool
  | injectMetadata .. | modifyJsonValue .. => true
  | _ => false

def onResponse (now : Instant) (rule : Rule) : RuleAction Body Outcome :=
  match rule.responseEdit now with
  | some edit => rule.editBody edit
  | none => return if rule.forResponses then .unchanged else .unsupported

def responseEvents (now : Instant) (rule : Rule) (body : Body) : List Event :=
  match rule.responseEdit now with
  | some edit => rule.editEvents edit body
  | none => []

end Relay.Rule
