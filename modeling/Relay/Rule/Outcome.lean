import Relay.Http.Body
import Relay.Json.Edit
import Relay.Rule.Basic

/-!
# What comes of a rule

A rule changes its message, leaves it alone, does not belong to its phase, or fails. Only a missing
required header ends an exchange; every other failure leaves the message as it was and the next rule
runs.
-/

namespace Relay

inductive Outcome where
  | changed
  | unchanged
  /-- The rule does not belong to the phase, or its type is not known. -/
  | unsupported
  deriving Repr, DecidableEq

inductive Severity where
  | fatal
  | recoverable
  deriving Repr, DecidableEq

def Severity.text : Severity → String
  | fatal => "fatal"
  | recoverable => "recoverable"

inductive RuleError where
  | missingHeader (header : String)
  | failed (label reason : String)
  deriving Repr, DecidableEq

namespace RuleError

def message : RuleError → String
  | missingHeader header => "Required header '" ++ header ++ "' is missing"
  | failed label reason => "Rule " ++ label ++ " failed: " ++ reason

/-- A missing required header is fatal, all else is recoverable. -/
def severity : RuleError → Severity
  | missingHeader _ => .fatal
  | failed .. => .recoverable

def isFatal (e : RuleError) : Bool := e.severity = .fatal

def status : RuleError → Nat
  | missingHeader _ => 400
  | failed .. => 500

def code : RuleError → String
  | missingHeader _ => "MISSING_REQUIRED_HEADER"
  | failed .. => "RULE_FAILED"

end RuleError

/-- The work of a rule on a message. It ends with an answer or an error, and the message is left as far as
the work has come. -/
abbrev RuleAction (σ α : Type) := ExceptT RuleError (StateM σ) α

namespace RuleAction

variable {σ α β : Type}

/-- What comes of a message: how the work on it ends, and the message as it is then. -/
def on (action : RuleAction σ α) (message : σ) : Except RuleError α × σ := (action.run.run message).run

@[simp] theorem on_pure (x : α) (message : σ) :
    RuleAction.on (pure x) message = (.ok x, message) := rfl

@[simp] theorem on_throw (error : RuleError) (message : σ) :
    RuleAction.on (throw error : RuleAction σ α) message = (.error error, message) := rfl

@[simp] theorem on_get (message : σ) :
    RuleAction.on (get : RuleAction σ σ) message = (.ok message, message) := rfl

@[simp] theorem on_modify (change : σ → σ) (message : σ) :
    RuleAction.on (modify change : RuleAction σ PUnit) message = (.ok ⟨⟩, change message) := rfl

@[simp] theorem on_liftExcept (result : Except RuleError α) (message : σ) :
    RuleAction.on (liftM result) message = (result, message) := rfl

theorem on_bind (action : RuleAction σ α) (next : α → RuleAction σ β) (message : σ) :
    RuleAction.on (action >>= next) message =
      match action.on message with
      | (.ok x, message) => (next x).on message
      | (.error error, message) => (.error error, message) := by
  change ExceptT.bindCont next (action.on message).1 (action.on message).2 = _
  rcases action.on message with ⟨result, after⟩
  cases result <;> rfl

end RuleAction

namespace Rule
open Http

/-- The text that a body rule works on: that of a body that is not blank. -/
def bodyText (rule : Rule) (body : Body) : Except RuleError (Option String) :=
  if body.isBlank then .ok none
  else match body.text? with
    | some text => .ok (some text)
    | none => .error (.failed rule.label "body is not valid UTF-8")

/-- Applies an edit to the text of a body. Nothing changes for a blank body, nor where the edit gives
back the same text. -/
def editBody (rule : Rule) (edit : Json.Edit) : RuleAction Body Outcome := do
  match ← rule.bodyText (← get) with
  | none => return .unchanged
  | some text =>
    let output ← (edit.attempt text).mapError fun e => RuleError.failed rule.label e.message
    if output = text then return .unchanged
    modify (·.replace output.toUTF8)
    return .changed

def editEvents (rule : Rule) (edit : Json.Edit) (body : Body) : List Event :=
  match rule.bodyText body with
  | .ok (some text) => edit.attemptEvents text
  | _ => []

end Rule
end Relay
