import Relay.Http.Message
import Relay.Route.Basic
import Relay.Telemetry.Counter
import Relay.Telemetry.Event

/-!
# Runs

A run is what happens while an exchange is worked on: notes in the order in which they were made, and a
result, unless the exchange was given up before there was one.
-/

namespace Relay

structure Context where
  correlationId : Uuid
  route : Option Route := none

def Context.routeId (context : Context) : Option String := context.route.map (·.id)

/-- A passage through a stage that reports them. -/
inductive Passage where
  | entered (uri : Http.Uri)
  | left (status : Nat)
  | stopped (status : Nat)

/-- A request that has left for its destination, with what was known about its exchange. -/
structure Forward where
  context : Context
  request : Http.Request

inductive Note where
  | event (event : Event)
  | count (counter : Counter)
  | forward (forward : Forward)
  | passage (stage : String) (context : Context) (passage : Passage)

structure Run (α : Type) where
  notes : List Note
  result : Option α

namespace Run

variable {α β : Type}

def pure (x : α) : Run α := ⟨[], some x⟩

/-- One run after another. A run that was given up has no sequel. -/
def bind (run : Run α) (next : α → Run β) : Run β :=
  match run.result with
  | some x => ⟨run.notes ++ (next x).notes, (next x).result⟩
  | none => ⟨run.notes, none⟩

instance : Monad Run where
  pure := pure
  bind := bind

def note (notes : List Note) : Run Unit := ⟨notes, some ()⟩

def report (event : Event) : Run Unit := note [.event event]

def count (counter : Counter) : Run Unit := note [.count counter]

def events (run : Run α) : List Event :=
  run.notes.filterMap fun
    | .event event => some event
    | _ => none

def counters (run : Run α) : List Counter :=
  run.notes.filterMap fun
    | .count counter => some counter
    | _ => none

def forwards (run : Run α) : List Forward :=
  run.notes.filterMap fun
    | .forward forward => some forward
    | _ => none

@[simp] theorem pure_eq (x : α) : (Pure.pure x : Run α) = ⟨[], some x⟩ := rfl

@[simp] theorem bind_some (notes : List Note) (x : α) (next : α → Run β) :
    (⟨notes, some x⟩ : Run α) >>= next = ⟨notes ++ (next x).notes, (next x).result⟩ := rfl

@[simp] theorem bind_none (notes : List Note) (next : α → Run β) :
    (⟨notes, none⟩ : Run α) >>= next = ⟨notes, none⟩ := rfl

@[simp] theorem result_bind (run : Run α) (next : α → Run β) :
    (run >>= next).result = run.result.bind fun x => (next x).result := by
  obtain ⟨notes, _ | x⟩ := run <;> rfl

@[simp] theorem notes_bind (run : Run α) (next : α → Run β) :
    (run >>= next).notes = run.notes ++ (run.result.map fun x => (next x).notes).getD [] := by
  obtain ⟨notes, _ | x⟩ := run <;> simp

@[simp] theorem forwards_bind (run : Run α) (next : α → Run β) :
    (run >>= next).forwards = run.forwards ++ (run.result.map fun x => (next x).forwards).getD [] := by
  obtain ⟨notes, _ | x⟩ := run <;> simp [forwards]

/-- A sequel that forwards nothing adds nothing to what was forwarded. -/
theorem forwards_bind_of_silent {run : Run α} {next : α → Run β} (silent : ∀ x, (next x).forwards = []) :
    (run >>= next).forwards = run.forwards := by
  rw [forwards_bind]
  cases run.result <;> simp [silent]

@[simp] theorem forwards_nil (result : Option α) : (⟨[], result⟩ : Run α).forwards = [] := rfl

@[simp] theorem result_note (notes : List Note) : (note notes).result = some () := rfl

@[simp] theorem result_report (event : Event) : (report event).result = some () := rfl

@[simp] theorem result_count (counter : Counter) : (count counter).result = some () := rfl

@[simp] theorem forwards_report (event : Event) : (report event).forwards = [] := rfl

@[simp] theorem forwards_count (counter : Counter) : (count counter).forwards = [] := rfl

@[simp] theorem forwards_note_events (events : List Event) :
    (note (events.map .event)).forwards = [] := by
  simp [forwards, note, List.filterMap_map]

end Run
end Relay
