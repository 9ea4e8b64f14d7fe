import Relay.Exchange.Run
import Relay.Rule.Request
import Relay.Rule.Response

/-!
# Runs of rules

The rules of a route run one after another, each on the message as the ones before it left it. Each
leaves one event that says what came of it. A fatal failure ends the run.
-/

namespace Relay.Exchange
open Http

structure RuleScope where
  correlationId : Uuid
  routeId : String
  phase : Phase

def RuleScope.site (scope : RuleScope) (label : String) : RuleSite :=
  ⟨scope.correlationId, scope.routeId, label, scope.phase.text⟩

def RuleScope.notes (scope : RuleScope) (rule : Rule) : Except RuleError Outcome → List Note
  | .ok .unsupported => [.event (.ruleUnknown (scope.site rule.type))]
  | .ok outcome =>
    [.event (.ruleApplied (scope.site rule.label) (outcome = .changed)),
      .count (.ruleApplied scope.phase.text rule.label)]
  | .error error =>
    if error.isFatal then [.event (.requestRejected (scope.site rule.label) error.message)]
    else [.event (.ruleFailed (scope.site rule.label) error.message),
      .count (.ruleFailed scope.phase.text rule.label)]

/-- Runs rules on a request, up to the first fatal error. -/
def runRequestRules (scope : RuleScope) : List Rule → RequestDraft → Run (Except RuleError RequestDraft)
  | [], draft => return .ok draft
  | rule :: rules, draft => do
    let (result, after) := rule.onRequest.on draft
    Run.note ((rule.requestEvents draft).map .event)
    Run.note (scope.notes rule result)
    match result with
    | .ok _ => runRequestRules scope rules after
    | .error error =>
      if error.isFatal then return .error error else runRequestRules scope rules after

/-- Runs rules on the body of a response. The clock is read for each rule by its place in the list. -/
def runResponseRules (scope : RuleScope) (clock : Nat → Instant) :
    Nat → List Rule → Body → Run Body
  | _, [], body => return body
  | place, rule :: rules, body => do
    let (result, after) := (rule.onResponse (clock place)).on body
    Run.note ((rule.responseEvents (clock place) body).map .event)
    Run.note (scope.notes rule result)
    runResponseRules scope clock (place + 1) rules after

end Relay.Exchange
