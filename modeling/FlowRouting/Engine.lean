import FlowRouting.Run.EventBuffer
import FlowRouting.Workflow.Json

/-!
# The engine

An engine keeps workflows under their ids and runs them. It is set up with the size of its event
buffer, which must not be zero, and with the number of runs that may go on at a time. Runs do not
share anything, so how many go on at a time makes no difference to what they come to.
-/

namespace FlowRouting

/-- How an engine is set up. -/
structure EngineConfig where
  eventBufferSize : Nat := 1000
  maxConcurrentRuns : Nat := 10
deriving DecidableEq, Repr

open Json in
def EngineConfig.shape : Shape EngineConfig where
  name := "RuntimeConfig"
  blank := {}
  fields :=
    [.withDefault "event_buffer_size" (.natural .size)
        fun eventBufferSize c ↦ { c with eventBufferSize },
      .withDefault "max_concurrent_runs" (.natural .size)
        fun maxConcurrentRuns c ↦ { c with maxConcurrentRuns }]

/-- An engine: its setup and its workflows, each under its id. -/
structure Engine where
  config : EngineConfig
  workflows : List (Uuid × Workflow) := []

namespace Engine

/-- An engine with a setup, if there can be a buffer of its size. -/
def new? (config : EngineConfig) : Option Engine :=
  if config.eventBufferSize = 0 then none else some { config }

/-- The engine with a workflow under its id, in place of the one that was there. -/
def register (e : Engine) (w : Workflow) : Engine :=
  { e with workflows := (w.id, w) :: e.workflows }

def workflow? (e : Engine) (id : Uuid) : Option Workflow :=
  e.workflows.lookup id

/-- The context of a run. -/
def context (w : Workflow) (executionId : Uuid) (startedAt : Instant) (input : Value) :
    RunContext where
  executionId
  workflowId := w.id
  input
  startedAt

def execute (e : Engine) (id executionId : Uuid) (startedAt : Instant) (input : Value) :
    Except RunError RunResult :=
  match e.workflow? id with
  | none => .error (.workflow (.notFound id))
  | some w => (w.run (context w executionId startedAt input) .never).result

/-- Runs a workflow once for every input, each run under an id of its own, and gives the results in
the order of the inputs. -/
def executeBatch (w : Workflow) (executionIds : Nat → Uuid) (startedAt : Instant)
    (inputs : List Value) : List (Except RunError RunResult) :=
  inputs.mapIdx fun i input ↦
    (w.run (context w (executionIds i) startedAt input) .never).result

end Engine

end FlowRouting
