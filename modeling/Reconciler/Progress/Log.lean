import Reconciler.Progress.Stage

/-!
Progress as entries of a log: a level, a message and the fields that go with it.

Covers `LoggingReporter`. What the engine logs besides, on its own account, is left out.
-/
namespace Reconciler

inductive LogLevel
  | info
  | error
  deriving DecidableEq, Repr

def LogLevel.name : LogLevel → String
  | .info => "info"
  | .error => "error"

structure LogEntry where
  level : LogLevel
  message : String
  fields : List (String × String)
  deriving DecidableEq, Repr

/-- Only a failed step is an error. The message of an event is its reason when it was skipped and
its error when it failed. -/
def Notice.logEntry : Notice → LogEntry
  | .stageStarted stage => ⟨.info, "stage started", [("stage", stage)]⟩
  | .stageFinished stage => ⟨.info, "stage finished", [("stage", stage)]⟩
  | .step event =>
    let fields := [("stage", event.stage), ("step", event.step)]
    let message := event.message.getD ""
    match event.state with
    | .started => ⟨.info, "started", fields⟩
    | .finished => ⟨.info, "finished", fields⟩
    | .skipped => ⟨.info, "skipped", fields ++ [("reason", message)]⟩
    | .failed => ⟨.error, "failed", fields ++ [("error", message)]⟩

end Reconciler
