import Reconciler.Failure
import Reconciler.Json.Printer
import Reconciler.Program
import Reconciler.Workspace.MemoryStore
import Reconciler.Workspace.Path

/-!
A store that keeps the workspace document in a file, as indented JSON. A document is written aside
and then put in place by renaming, so that a reader never sees half of one. A missing file is a new
workspace: the first look at it gives it a director id and writes it straight away.

Covers `FileStateService`: `load`, `save`, `tmp_path`.
-/
namespace Reconciler

/-- What looking at a path tells. -/
inductive PathStatus
  | present
  | missing
  | unknown
  deriving DecidableEq, Repr

inductive FileRequest
  | inspect (path : Path)
  | read (path : Path)
  | write (path : Path) (text : String)
  | rename (source target : Path)
  | freshId

/-- Reading may give no text; writing and renaming tell whether they were done. -/
def FileRequest.Reply : FileRequest → Type
  | .inspect _ => PathStatus
  | .read _ => Option String
  | .write .. => Bool
  | .rename .. => Bool
  | .freshId => String

/-- The surroundings of a file store. -/
abbrev FileEffects : Signature := ⟨FileRequest, FileRequest.Reply⟩

namespace FileStore

abbrev Action := ExceptT StorageFault (Program FileEffects)

/-- Asks the file system once. -/
def ask {α : Type} (request : FileRequest) (reply : request.Reply → α) : Action α :=
  ExceptT.lift (.ask request fun r => .done (reply r))

def inspect (path : Path) : Action PathStatus := ask (.inspect path) id

def read (path : Path) : Action (Option String) := ask (.read path) id

def write (path : Path) (text : String) : Action Bool := ask (.write path text) id

def rename (source target : Path) : Action Bool := ask (.rename source target) id

def freshId : Action String := ask .freshId id

def save (path : Path) (doc : Document) : Action Unit := do
  if ← write path.aside doc.toJson.indented then
    if ← rename path.aside path then return ()
    else throw .notReplaced
  else throw .notWritten

/-- Gives a workspace its director, and writes the document with it straight away. -/
def mint (path : Path) (doc : Document) : Action Document := do
  let doc := { doc with directorId := ← freshId }
  save path doc
  return doc

def loadExisting (path : Path) : Action Document := do
  match ← read path with
  | none => throw .notRead
  | some text =>
    match Document.read.ofText? text with
    | none => throw .notParsed
    | some doc => if doc.directorId.isEmpty then mint path doc else return doc

def load (path : Path) : Action Document := do
  match ← inspect path with
  | .present => loadExisting path
  | .missing => mint path (.fresh "")
  | .unknown => throw .notInspected

section Runs

/-!
The first request of a run, and the run that follows each reply.
-/

variable {α : Type}

theorem run_inspect_bind (path : Path) (f : PathStatus → Action α) :
    (inspect path >>= f).run =
      .ask (.inspect path) fun (status : PathStatus) => (f status).run := rfl

theorem run_read_bind (path : Path) (f : Option String → Action α) :
    (read path >>= f).run = .ask (.read path) fun (text : Option String) => (f text).run := rfl

theorem run_write_bind (path : Path) (text : String) (f : Bool → Action α) :
    (write path text >>= f).run =
      .ask (.write path text) fun (written : Bool) => (f written).run := rfl

theorem run_rename_bind (source target : Path) (f : Bool → Action α) :
    (rename source target >>= f).run =
      .ask (.rename source target) fun (renamed : Bool) => (f renamed).run := rfl

theorem run_freshId_bind (f : String → Action α) :
    (freshId >>= f).run = .ask .freshId fun (id : String) => (f id).run := rfl

end Runs

end FileStore

end Reconciler
