import Relay.Exchange.Stage

/-!
# Pipelines

A pipeline is a fixed list of stages around a handler: those that run before it, in the order in which
they were added, and then those that wrap it, in theirs.
-/

namespace Relay
open Http

structure Pipeline where
  before : List Stage
  around : List Stage

/-- What a run of a pipeline is given from outside, for each stage by its place. -/
structure World where
  verbosity : Verbosity
  freshId : Nat → Uuid
  clock : Nat → Nat → Instant

def World.at (world : World) (place : Nat) : Surroundings :=
  ⟨world.verbosity, world.freshId place, world.clock place⟩

namespace Pipeline

def empty : Pipeline := ⟨[], []⟩

def addBefore (stage : Stage) (pipeline : Pipeline) : Pipeline :=
  { pipeline with before := pipeline.before ++ [stage] }

def addAround (stage : Stage) (pipeline : Pipeline) : Pipeline :=
  { pipeline with around := pipeline.around ++ [stage] }

/-- The stages in the order in which a request meets them. -/
def stages (pipeline : Pipeline) : List Stage := pipeline.before ++ pipeline.around

def stageNames (pipeline : Pipeline) : List String := pipeline.stages.map (·.name)

/-- The way through some stages, the first of which is at a place, to a handler. -/
def chain (world : World) (handler : Handler) : Nat → List Stage → Handler
  | _, [] => handler
  | place, stage :: rest => stage.process (world.at place) (chain world handler (place + 1) rest)

def process (pipeline : Pipeline) (world : World) (handler : Handler) : Handler :=
  chain world handler 0 pipeline.stages

end Pipeline
end Relay
