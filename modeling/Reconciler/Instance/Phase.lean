import Reconciler.Json.Reading

/-!
How far a run has taken an instance, and what its agent reports about the jobs.

Covers `InstanceState` and `AgentState`.
-/
namespace Reconciler

inductive Phase
  /-- There is no machine yet. -/
  | absent
  /-- The machine is there, its agent does not answer yet. -/
  | creating
  | waitingForAgent
  /-- The agent answers and the persistent disk is in place. -/
  | disksUpdated
  /-- The jobs were applied and report that they run. -/
  | running
  /-- The jobs are stopped, the machine is still there. -/
  | stopped
  | deleted
  deriving DecidableEq, Repr

namespace Phase

def all : List Phase :=
  [.absent, .creating, .waitingForAgent, .disksUpdated, .running, .stopped, .deleted]

def name : Phase → String
  | .absent => "absent"
  | .creating => "creating"
  | .waitingForAgent => "waiting_for_agent"
  | .disksUpdated => "disks_updated"
  | .running => "running"
  | .stopped => "stopped"
  | .deleted => "deleted"

def ofName? (name : String) : Option Phase := all.find? (·.name == name)

def toJson (phase : Phase) : Json := phase.name

/-- A phase is written as its name; an object that has the name as its only member, without a
value, is read too. -/
def read : Reader Phase
  | _, .string (some name) => ofName? name
  | depth, .object [(some name, .null)] => if depth < Json.maxDepth then ofName? name else none
  | _, _ => none

end Phase

/-- What an agent reports about its jobs. -/
structure AgentState where
  jobState : String
  /-- Network settings as the agent resolved them, by network name. -/
  networks : Properties

namespace AgentState

def isRunning (state : AgentState) : Bool := state.jobState == "running"

def toJson (state : AgentState) : Json :=
  .object [("job_state", state.jobState), ("networks", .object state.networks)]

def read : Reader AgentState := fun depth value => do
  let parts ← Parts.of? ["job_state", "networks"] depth value
  return {
    jobState := ← parts.required "job_state" Reader.string
    networks := ← parts.withDefault "networks" [] Reader.properties }

end AgentState

end Reconciler
