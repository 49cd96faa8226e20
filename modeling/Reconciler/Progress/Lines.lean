import Reconciler.Json.Printer
import Reconciler.Progress.Recorder

/-!
Progress as text: one JSON object a line, for other tools to read.

Covers `StdoutReporter`.
-/
namespace Reconciler.Notice

/-- A stage line has the members `stage`, `state` and `type`; a step line has no `type`. -/
def toJson : Notice → Json
  | .stageStarted stage =>
    .object [("stage", stage), ("state", "started"), ("type", "stage")]
  | .stageFinished stage =>
    .object [("stage", stage), ("state", "finished"), ("type", "stage")]
  | .step event => event.toJson

def line (notice : Notice) : String := notice.toJson.compact ++ "\n"

/-- Everything that is printed for some notices. -/
def lines (notices : List Notice) : String := String.join (notices.map line)

end Reconciler.Notice
