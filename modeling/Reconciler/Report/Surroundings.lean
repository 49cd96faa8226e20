import Reconciler.Progress.Log
import Reconciler.Report.Values
import Reconciler.Simulation.World

/-!
What can be seen of a scripted world from outside: its store and the ports it forwarded. Entries of
a log are reported here too.
-/
namespace Reconciler

/-- A text as it stands, anything else by what it is. -/
def Entry.report : Entry → Json
  | .folder => "<directory>"
  | .file none => "<not utf-8>"
  | .file (some text) => text

/-- The document of a store in memory, or the file and the names beside it. -/
def Store.report : Store → Json
  | .memory doc => .ofOption Document.toJson doc
  | .file place =>
    .object [("file", .ofOption Entry.report (place.tree.look place.path)),
      ("dir", .ofOption Json.strings (place.tree.names place.path.folder))]

/-- A forwarded pair of ports, remote and local. -/
def portsReport (ports : UInt16 × UInt16) : Json := .array [ports.1, ports.2]

def World.tunnelReport (world : World) : Json :=
  .object [("forwards", .list portsReport world.forwards), ("closed", .ofNat world.closed)]

/-- Fields are reported as texts, beside the message. -/
def LogEntry.report (entry : LogEntry) : Json :=
  .array [.string entry.level.name, .object (("message", .string entry.message) ::
    entry.fields.map fun (name, text) => (name, .string text))]

end Reconciler
