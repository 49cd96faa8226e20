import Reconciler.Proofs.Runs
import Reconciler.Workspace.FileStore
import Reconciler.Effect

/-!
The stores of a workspace, as the repositories see them. What lies in a store says what the document
is. A look at it changes nothing, but a workspace without a director may be given one; and what
fails changes nothing at all. The store in memory keeps to that, and so does the one in a file, at
whichever step of writing aside and renaming it fails.
-/
namespace Reconciler

/-- How a document lies in a store. -/
structure Keeping (κ : Type) where
  /-- What a saved document is kept as. -/
  put : Document → κ
  /-- What is kept says this. -/
  Holds : κ → Document → Prop

namespace Keeping

/-- A look at what is kept gives a document, and keeps it as it was or, where it had no director,
with one. -/
def Gives {κ : Type} (k : Keeping κ) (before : κ) (doc : Document) (after : κ) : Prop :=
  (k.Holds before doc ∧ after = before) ∨
    ∃ raw, k.Holds before raw ∧ raw.directorId = "" ∧
      doc = { raw with directorId := doc.directorId } ∧ after = k.put doc

/-- A store whose states keep a document. -/
structure Lawful {κ σ : Type} (k : Keeping κ) (answers : Behaviour Effects σ) (kept : σ → κ) :
    Prop where
  given : ∀ {s t doc}, answers s .load (.ok doc) t → k.Gives (kept s) doc (kept t)
  refused : ∀ {s t e}, answers s .load (.error e) t → kept t = kept s
  saved : ∀ {s t doc}, answers s (.save doc) (.ok ()) t → kept t = k.put doc
  unsaved : ∀ {s t doc e}, answers s (.save doc) (.error e) t → kept t = kept s
  drawn : ∀ {s t id}, answers s .freshId id t → kept t = kept s

end Keeping

namespace MemoryStore

/-- With an identifier at hand. -/
instance : FreshIds (ReaderM String) := ⟨read⟩

/-- How a workspace in memory answers. Nothing of it fails. -/
def Serves : Behaviour Effects (Option Document) := fun s r reply t =>
  match r, reply with
  | .load, .ok doc =>
    ∃ id, ((load : StateT (Option Document) (ReaderM String) Document).run s).run id = (doc, t)
  | .save doc, .ok () =>
    ∃ id, ((save doc : StateT (Option Document) (ReaderM String) Unit).run s).run id = ((), t)
  | .load, .error _ | .save _, .error _ => False
  | _, _ => t = s

/-- Where nothing was saved yet a document is new. -/
def keeping : Keeping (Option Document) where
  put := some
  Holds kept doc := doc = kept.getD (.fresh "")

theorem lawful : keeping.Lawful Serves id where
  given {s t doc} given := by
    obtain ⟨drawn, same⟩ := given
    cases s with
    | some kept =>
      cases same
      exact .inl ⟨rfl, rfl⟩
    | none =>
      cases same
      exact .inr ⟨_, rfl, rfl, rfl, rfl⟩
  refused impossible := impossible.elim
  saved {s t doc} saved := by
    obtain ⟨_, same⟩ := saved
    cases same
    rfl
  unsaved impossible := impossible.elim
  drawn same := same

end MemoryStore

/-- What the files of a machine hold. -/
abbrev Files := Path → Option ByteArray

namespace Files

def put (files : Files) (path : Path) (content : Option ByteArray) : Files :=
  fun other => if other = path then content else files other

@[simp] theorem put_same (files : Files) (path : Path) (content : Option ByteArray) :
    files.put path content path = content := by simp [put]

theorem put_other (files : Files) {path other : Path} (content : Option ByteArray)
    (h : other ≠ path) : files.put path content other = files other := by simp [put, h]

/-- How the file system may answer. Any request may fail at any time. A write that fails may leave
anything in its file; a file takes the place of another one at once or not at all. -/
def Answers : Behaviour FileEffects Files := fun s r reply t =>
  match r, reply with
  | .inspect path, status =>
    (status = .present → (s path).isSome) ∧ (status = .missing → s path = none) ∧ t = s
  | .read path, some text => s path = some text.toUTF8 ∧ t = s
  | .read _, none => t = s
  | .write path text, true => t = s.put path (some text.toUTF8)
  | .write path _, false => ∃ left, t = s.put path left
  | .rename source target, true =>
    ∃ content, s source = some content ∧ t = (s.put source none).put target (some content)
  | .rename .., false => t = s
  | .freshId, _ => t = s

end Files

namespace FileStore

/-- How a workspace in a file answers. -/
def Serves (path : Path) : Behaviour Effects Files := fun s r reply t =>
  match r, reply with
  | .load, reply => ∃ result, reply = result.mapError Failure.storage ∧
      (load path).run.Reaches Files.Answers s (.done result) t
  | .save doc, reply => ∃ result, reply = result.mapError Failure.storage ∧
      (save path doc).run.Reaches Files.Answers s (.done result) t
  | _, _ => t = s

/-- A document lies in its file as text; a file that is missing is that of a new workspace. -/
def keeping : Keeping (Option ByteArray) where
  put doc := some doc.toJson.indented.toUTF8
  Holds kept doc := (kept = none ∧ doc = .fresh "") ∨
    ∃ text, kept = some text.toUTF8 ∧ Document.read.ofText? text = some doc

variable {path : Path} {s : Files}

/-- What a look at the file comes to. -/
def Looked (path : Path) (s : Files) : Except StorageFault Document → Files → Prop
  | .ok doc, t => keeping.Gives (s path) doc (t path)
  | .error _, t => t path = s path

/-- What saving to the file comes to. -/
def Saved (path : Path) (doc : Document) (s : Files) : Except StorageFault Unit → Files → Prop
  | .ok (), t => t path = keeping.put doc
  | .error _, t => t path = s path

/-- The file is replaced as a whole, or stays as it was. -/
theorem save_meets (doc : Document) :
    (save path doc).run.Meets Files.Answers (fun _ _ _ _ => True) (Saved path doc s) s := by
  rw [save, run_write_bind]
  intro written t answered
  refine ⟨trivial, ?_⟩
  match written with
  | false =>
    obtain ⟨left, rfl⟩ := answered
    exact Files.put_other s left path.aside_ne.symm
  | true =>
    obtain rfl := answered
    dsimp only
    rw [if_pos rfl, run_rename_bind]
    intro renamed u answered
    refine ⟨trivial, ?_⟩
    match renamed with
    | false =>
      obtain rfl := answered
      exact Files.put_other s _ path.aside_ne.symm
    | true =>
      obtain ⟨content, found, rfl⟩ := answered
      rw [Files.put_same] at found
      cases found
      exact Files.put_same _ path _

/-- The document is only handed out with its director when it was saved with it. -/
theorem mint_meets {raw : Document} (held : keeping.Holds (s path) raw)
    (new : raw.directorId = "") :
    (mint path raw).run.Meets Files.Answers (fun _ _ _ _ => True) (Looked path s) s := by
  rw [mint, run_freshId_bind]
  intro id t same
  obtain rfl := same
  refine ⟨trivial, Program.Meets.bind (save_meets _) fun result u saved => ?_⟩
  match result with
  | .ok () => exact .inr ⟨raw, held, new, rfl, saved⟩
  | .error _ => exact saved

theorem loadExisting_meets :
    (loadExisting path).run.Meets Files.Answers (fun _ _ _ _ => True) (Looked path s) s := by
  rw [loadExisting, run_read_bind]
  intro text t answered
  refine ⟨trivial, ?_⟩
  match text with
  | none =>
    obtain rfl := answered
    exact rfl
  | some text =>
    obtain ⟨found, rfl⟩ := answered
    dsimp only
    split
    case h_1 => exact rfl
    case h_2 doc parsed =>
      have held : keeping.Holds (t path) doc := .inr ⟨text, found, parsed⟩
      split
      case isTrue new => exact mint_meets held (by simpa using new)
      case isFalse => exact .inl ⟨held, rfl⟩

theorem load_meets :
    (load path).run.Meets Files.Answers (fun _ _ _ _ => True) (Looked path s) s := by
  rw [load, run_inspect_bind]
  intro status t answered
  obtain ⟨-, missing, rfl⟩ := answered
  refine ⟨trivial, ?_⟩
  match status with
  | .unknown => exact rfl
  | .missing => exact mint_meets (.inl ⟨missing rfl, rfl⟩) rfl
  | .present => exact loadExisting_meets

theorem lawful (path : Path) : keeping.Lawful (Serves path) fun files => files path where
  given {s t doc} answered := by
    obtain ⟨result, same, ran⟩ := answered
    cases result with
    | ok found =>
      cases same
      exact load_meets.ends ran
    | error e => cases same
  refused {s t e} answered := by
    obtain ⟨result, same, ran⟩ := answered
    cases result with
    | ok found => cases same
    | error e => exact load_meets.ends ran
  saved {s t doc} answered := by
    obtain ⟨result, same, ran⟩ := answered
    cases result with
    | ok => exact (save_meets doc).ends ran
    | error e => cases same
  unsaved {s t doc e} answered := by
    obtain ⟨result, same, ran⟩ := answered
    cases result with
    | ok => cases same
    | error e => exact (save_meets doc).ends ran
  drawn same := congrArg (· path) same

end FileStore

end Reconciler
