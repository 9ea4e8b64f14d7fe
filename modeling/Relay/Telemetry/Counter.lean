/-!
# Counters

What the relay counts. Every count goes up by one.
-/

namespace Relay

inductive Counter where
  | routeMatched (routeId : String)
  | ruleApplied (phase rule : String)
  | ruleFailed (phase rule : String)
  | requestAborted (routeId : String)
  deriving Repr, DecidableEq

namespace Counter

def routeMatches : String := "hermes_route_matches_total"

def rulesApplied : String := "hermes_rules_applied_total"

def ruleFailures : String := "hermes_rule_failures_total"

def requestsAborted : String := "hermes_requests_aborted_total"

def name : Counter → String
  | routeMatched _ => routeMatches
  | ruleApplied .. => rulesApplied
  | ruleFailed .. => ruleFailures
  | requestAborted _ => requestsAborted

/-- The labels of a counter, in the order of their names. -/
def labels : Counter → List (String × String)
  | routeMatched routeId | requestAborted routeId => [("route_id", routeId)]
  | ruleApplied phase rule | ruleFailed phase rule => [("phase", phase), ("rule_type", rule)]

def descriptions : List (String × String) := [
  (routeMatches, "Requests that resolved to a route"),
  (rulesApplied, "Transformation rules that ran without error"),
  (ruleFailures, "Transformation rules that failed and were skipped"),
  (requestsAborted, "Requests rejected by a missing required header")]

/-- How often each counter occurs, in the order of first occurrences. -/
def tally (counters : List Counter) : List (Counter × Nat) :=
  counters.eraseDups.map fun counter => (counter, counters.count counter)

end Counter
end Relay
