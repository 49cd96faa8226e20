import Reconciler.Failure

/-!
Progress. Everything that is done shows as a step of a stage: the step starts, and then finishes, is
skipped because there was nothing to do, or fails. A skipped step is no failure.

Covers `Stage` (`start`, `finish`, `perform`, `run`), `StepEvent`, `EventState`, `StepOutcome` and
`EventSink`.
-/
namespace Reconciler

inductive StepState
  | started
  | finished
  | skipped
  | failed
  deriving DecidableEq, Repr

def StepState.name : StepState → String
  | .started => "started"
  | .finished => "finished"
  | .skipped => "skipped"
  | .failed => "failed"

/-- The state of a name. A name that is not known is `started`. -/
def StepState.ofName (name : String) : StepState :=
  ([.finished, .skipped, .failed].find? (fun state : StepState => state.name == name)).getD .started

structure StepEvent where
  stage : String
  step : String
  state : StepState
  message : Option String
  deriving DecidableEq, Repr

/-- What a listener is told. -/
inductive Notice
  | stageStarted (stage : String)
  | stageFinished (stage : String)
  | step (event : StepEvent)
  deriving DecidableEq, Repr

/-- Surroundings that can be told about progress. -/
class Reporter (m : Type → Type) where
  report : Notice → m Unit

instance {m : Type → Type} [Monad m] [Reporter m] {ε : Type} : Reporter (ExceptT ε m) where
  report notice := ExceptT.lift (Reporter.report notice)

/-- How a step ended that did not fail. -/
inductive Outcome
  | finished
  | skipped (reason : String)
  deriving DecidableEq, Repr

def Outcome.isSkipped : Outcome → Bool
  | .finished => false
  | .skipped _ => true

/-- A named group of steps. -/
structure Stage where
  name : String

namespace Stage

variable {m : Type → Type} [Monad m] [Reporter m] {α : Type}

def start (stage : Stage) : m Unit := Reporter.report (.stageStarted stage.name)

def finish (stage : Stage) : m Unit := Reporter.report (.stageFinished stage.name)

def opening (stage : Stage) (step : String) : StepEvent := ⟨stage.name, step, .started, none⟩

/-- The event that closes a step: it follows from the step's result. -/
def closing (stage : Stage) (step : String) : Except Failure Outcome → StepEvent
  | .ok .finished => ⟨stage.name, step, .finished, none⟩
  | .ok (.skipped reason) => ⟨stage.name, step, .skipped, some reason⟩
  | .error failure => ⟨stage.name, step, .failed, some failure.text⟩

/-- Runs one step. How it ended, if it did not fail, is told by the value it made. -/
def step (stage : Stage) (name : String) (outcome : α → Outcome) (body : ExceptT Failure m α) :
    ExceptT Failure m α := ExceptT.mk do
  Reporter.report (.step (stage.opening name))
  let result ← body.run
  Reporter.report (.step (stage.closing name (result.map outcome)))
  return result

/-- Runs one step, whose body decides between finishing and skipping. -/
def perform (stage : Stage) (name : String) (body : ExceptT Failure m Outcome) :
    ExceptT Failure m Outcome :=
  stage.step name id body

/-- Runs one step that makes a value and cannot be skipped. -/
def run (stage : Stage) (name : String) (body : ExceptT Failure m α) : ExceptT Failure m α :=
  stage.step name (fun _ => .finished) body

end Stage

end Reconciler
