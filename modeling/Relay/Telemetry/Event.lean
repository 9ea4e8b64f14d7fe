import Relay.Identity.Uuid

/-!
# Log events

What the relay reports while it works. An event is a fact; its level, wording and fields follow from
it.
-/

namespace Relay

inductive Level where
  | error
  | warn
  | info
  | debug
  | trace
  deriving Repr, DecidableEq

/-- The rank of a level; more verbose levels rank higher. -/
def Level.rank : Level → Nat
  | error => 1
  | warn => 2
  | info => 3
  | debug => 4
  | trace => 5

def Level.text : Level → String
  | error => "ERROR"
  | warn => "WARN"
  | info => "INFO"
  | debug => "DEBUG"
  | trace => "TRACE"

/-- The most verbose level that is recorded; `none` when nothing is. -/
abbrev Verbosity := Option Level

def Verbosity.records (verbosity : Verbosity) (level : Level) : Bool :=
  match verbosity with
  | none => false
  | some most => level.rank ≤ most.rank

inductive FieldValue where
  | text (s : String)
  | number (n : Nat)
  | flag (b : Bool)
  /-- A time span that depends on the clock. -/
  | duration
  deriving Repr, DecidableEq

/-- The rule that an event is about: the exchange and the route it runs in, and its label. -/
structure RuleSite where
  correlationId : Uuid
  routeId : String
  rule : String
  phase : String
  deriving Repr, DecidableEq

inductive Event where
  -- reading of settings
  | fileLoaded (path : String) (routes : Nat)
  | dotEnvLoaded
  | unknownVariable (name : String)
  -- building
  | routeRegistered (routeId matchPath kind : String)
  | gatewayReady (routes : Nat) (stages : String)
  -- edits of documents
  | noNodes (operation path : String)
  | editFailed (operation error : String)
  | membersRenamed (old new : String) (count : Nat)
  -- exchanges
  | requestArrived (correlationId : Uuid) (method path query : String) (headerNames : List String)
      (bodyBytes : Nat)
  | requestBody (correlationId : Uuid) (body : String)
  | responseLeaving (correlationId : Uuid) (routeId : Option String) (status bodyBytes : Nat)
  | responseBody (correlationId : Uuid) (body : String)
  | noRoute (correlationId : Uuid) (path : String)
  | routeMatched (correlationId : Uuid) (routeId : String) (rules : Nat)
  | requestTooLarge (correlationId : Uuid) (routeId : String) (size limit : Nat)
  | responseTooLarge (correlationId : Uuid) (size limit : Nat)
  | responseNotText (correlationId : Uuid) (routeId : String)
  -- rules
  | ruleUnknown (site : RuleSite)
  | ruleApplied (site : RuleSite) (changed : Bool)
  | requestRejected (site : RuleSite) (error : String)
  | ruleFailed (site : RuleSite) (error : String)
  deriving Repr, DecidableEq

namespace Event

def level : Event → Level
  | editFailed .. | ruleFailed .. => .error
  | noNodes .. | requestTooLarge .. | responseTooLarge .. | responseNotText .. | ruleUnknown ..
  | requestRejected .. => .warn
  | gatewayReady .. | requestArrived .. | responseLeaving .. => .info
  | membersRenamed .. | requestBody .. | responseBody .. => .trace
  | _ => .debug

def message : Event → String
  | fileLoaded .. => "Loaded configuration file"
  | dotEnvLoaded => "Loaded .env file"
  | unknownVariable .. => "Ignoring unknown configuration variable"
  | routeRegistered .. => "Registered route"
  | gatewayReady .. => "Gateway ready"
  | noNodes .. => "No nodes found at path"
  | editFailed .. => "JSON mutation failed"
  | membersRenamed .. => "Renamed JSON members"
  | requestArrived .. => "Incoming request"
  | requestBody .. => "Request body"
  | responseLeaving .. => "Outgoing response"
  | responseBody .. => "Response body"
  | noRoute .. => "No matching route, passing through"
  | routeMatched .. => "Matched route"
  | requestTooLarge .. => "Request body too large, skipping body rules"
  | responseTooLarge .. => "Response body too large, skipping response rules"
  | responseNotText .. => "Response body is not valid UTF-8, skipping response rules"
  | ruleUnknown .. => "Unknown transformation type, skipping"
  | ruleApplied .. => "Applied transformation"
  | requestRejected .. => "Request rejected"
  | ruleFailed .. => "Transformation failed, continuing with next rule"

def idField (id : Uuid) : String × FieldValue := ("correlation_id", .text id.text)

def routeField (routeId : String) : String × FieldValue := ("route_id", .text routeId)

def siteFields (site : RuleSite) : List (String × FieldValue) :=
  [idField site.correlationId, routeField site.routeId, ("rule_type", .text site.rule)]

def phaseField (site : RuleSite) : String × FieldValue := ("phase", .text site.phase)

def fields : Event → List (String × FieldValue)
  | fileLoaded path routes => [("path", .text path), ("routes", .number routes)]
  | dotEnvLoaded => []
  | unknownVariable name => [("key", .text name)]
  | routeRegistered routeId matchPath kind =>
    [routeField routeId, ("match_path", .text matchPath), ("kind", .text kind)]
  | gatewayReady routes stages => [("routes", .number routes), ("stages", .text stages)]
  | noNodes operation path => [("operation", .text operation), ("json_path", .text path)]
  | editFailed operation error => [("operation", .text operation), ("error", .text error)]
  | membersRenamed old new count =>
    [("old_name", .text old), ("new_name", .text new), ("renamed", .number count)]
  | requestArrived id method path query headerNames bodyBytes =>
    [idField id, ("method", .text method), ("path", .text path), ("query", .text query),
      ("headers", .text (String.intercalate "," headerNames)), ("body_bytes", .number bodyBytes)]
  | requestBody id body => [idField id, ("body", .text body)]
  | responseLeaving id routeId status bodyBytes =>
    [idField id, routeField (routeId.getD "none"), ("status_code", .number status),
      ("duration_ms", .duration), ("body_bytes", .number bodyBytes)]
  | responseBody id body => [idField id, ("body", .text body)]
  | noRoute id path => [idField id, ("path", .text path)]
  | routeMatched id routeId rules => [idField id, routeField routeId, ("rules", .number rules)]
  | requestTooLarge id routeId size limit =>
    [idField id, routeField routeId, ("size", .number size), ("limit", .number limit)]
  | responseTooLarge id size limit =>
    [idField id, ("size", .number size), ("limit", .number limit)]
  | responseNotText id routeId => [idField id, routeField routeId]
  | ruleUnknown site => siteFields site ++ [phaseField site]
  | ruleApplied site changed => siteFields site ++ [phaseField site, ("changed", .flag changed)]
  | requestRejected site error => siteFields site ++ [("error", .text error)]
  | ruleFailed site error => siteFields site ++ [phaseField site, ("error", .text error)]

end Event

def recorded (verbosity : Verbosity) (events : List Event) : List Event :=
  events.filter fun event => Verbosity.records verbosity event.level

end Relay
