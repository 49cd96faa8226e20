import Reconciler.Json.Basic
import Reconciler.Progress.Stage

/-!
A listener that keeps every notice, and what can be told from them afterwards: the steps in the
order they started, with the states each went through.

Covers `MemoryReporter`: `events`, `stages`, `step_names`, `step_states`, `outcomes`.
-/
namespace Reconciler

structure Recorder where
  /-- Stages as they started and finished. -/
  stages : List String
  events : List StepEvent
  deriving DecidableEq

namespace Recorder

def empty : Recorder := ⟨[], []⟩

def record (recorder : Recorder) : Notice → Recorder
  | .stageStarted stage => { recorder with stages := recorder.stages ++ [stage] }
  | .stageFinished stage => { recorder with stages := recorder.stages ++ [stage] }
  | .step event => { recorder with events := recorder.events ++ [event] }

/-- Adds a state to the last step of the name; without such a step nothing changes. -/
def advance (step : String) (state : StepState) :
    List (String × List StepState) → List (String × List StepState)
  | [] => []
  | (name, states) :: rest =>
    if name = step ∧ rest.all (·.1 ≠ step) then (name, states ++ [state]) :: rest
    else (name, states) :: advance step state rest

/-- A started event opens a step; any other belongs to the last step of its name. -/
def track (steps : List (String × List StepState)) (event : StepEvent) :
    List (String × List StepState) :=
  if event.state = .started then steps ++ [(event.step, [.started])]
  else advance event.step event.state steps

/-- Every step with the states it went through. -/
def stepStates (recorder : Recorder) : List (String × List StepState) :=
  recorder.events.foldl track []

/-- Surroundings that only listen, the first notice first. -/
abbrev Listening := StateM (List Notice)

instance : Reporter Listening where
  report notice := modify fun notices => notices ++ [notice]

/-- What is kept of some notices. -/
def ofNotices (notices : List Notice) : Recorder := notices.foldl record empty

def stepNames (recorder : Recorder) : List String := recorder.stepStates.map Prod.fst

/-- Every step with its last state. -/
def outcomes (recorder : Recorder) : List (String × StepState) :=
  recorder.stepStates.filterMap fun (name, states) => states.getLast?.map fun state => (name, state)

end Recorder

namespace StepEvent

/-- An event without a message has no such member. -/
def toJson (event : StepEvent) : Json :=
  .object ([("stage", .string event.stage), ("step", .string event.step),
    ("state", .string event.state.name)] ++
      event.message.toList.map fun message => ("message", .string message))

end StepEvent

end Reconciler
