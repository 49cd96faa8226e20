import Reconciler.Proofs.RepositoryCalls
import Reconciler.Proofs.Serialisation
import Reconciler.Proofs.Stores

/-!
A workspace in a file and one in memory can take each other's place. Both are run on the same calls,
with the same identifiers to come, in a file system where nothing fails: each call returns the same
from both, and after it the file says what the memory holds.
-/
namespace Reconciler

open Repository

namespace RepositoryCall

def Result : RepositoryCall → Type
  | .currentVm => Option String
  | .currentDisk | .findDisk _ => Option DiskRecord
  | .saveDisk .. => DiskRecord
  | .allDisks => List DiskRecord
  | .currentStemcell | .findStemcell .. => Option StemcellRecord
  | .saveStemcell .. => StemcellRecord
  | .allStemcells => List StemcellRecord
  | .findRelease .. => Option ReleaseRecord
  | .saveRelease .. => ReleaseRecord
  | .currentReleases | .allReleases => List ReleaseRecord
  | .setCurrentVm _ | .clearCurrentVm | .setCurrentDisk _ | .clearCurrentDisk | .deleteDisk _
  | .setCurrentStemcell _ | .clearCurrentStemcell | .deleteStemcell _ | .setCurrentReleases _
  | .clearCurrentReleases | .deleteRelease _ => Unit

/-- The call with what it returns. -/
def perform : (call : RepositoryCall) → Engine call.Result
  | .currentVm => Vms.current
  | .setCurrentVm cid => Vms.setCurrent cid
  | .clearCurrentVm => Vms.clearCurrent
  | .currentDisk => Disks.current
  | .setCurrentDisk id => Disks.setCurrent id
  | .clearCurrentDisk => Disks.clearCurrent
  | .saveDisk cid size properties => Disks.save cid size properties
  | .findDisk cid => Disks.find cid
  | .allDisks => Disks.all
  | .deleteDisk id => Disks.delete id
  | .currentStemcell => Stemcells.current
  | .setCurrentStemcell id => Stemcells.setCurrent id
  | .clearCurrentStemcell => Stemcells.clearCurrent
  | .saveStemcell name version cid => Stemcells.save name version cid
  | .findStemcell name version => Stemcells.find name version
  | .allStemcells => Stemcells.all
  | .deleteStemcell id => Stemcells.delete id
  | .currentReleases => Releases.current
  | .setCurrentReleases ids => Releases.setCurrent ids
  | .clearCurrentReleases => Releases.clearCurrent
  | .saveRelease name version => Releases.save name version
  | .findRelease name version => Releases.find name version
  | .allReleases => Releases.all
  | .deleteRelease id => Releases.delete id

end RepositoryCall

/-- The identifiers that are still to come. None of them is empty. -/
abbrev Supply := Nat → { id : String // id ≠ "" }

def Supply.next (ids : Supply) : Supply := fun n => ids (n + 1)

instance : FreshIds (StateM Supply) := ⟨fun ids => ((ids 0).val, ids.next)⟩

/-- Files in which nothing fails: what is there is found, and what is done stays done. -/
def Files.serve : (r : FileRequest) → Files × Supply → r.Reply × (Files × Supply)
  | .inspect path, (files, ids) =>
    (if (files path).isSome then PathStatus.present else .missing, files, ids)
  | .read path, (files, ids) => ((files path).bind String.fromUTF8?, files, ids)
  | .write path text, (files, ids) => (true, files.put path (some text.toUTF8), ids)
  | .rename source target, (files, ids) =>
    match files source with
    | some content => (true, (files.put source none).put target (some content), ids)
    | none => (false, files, ids)
  | .freshId, (files, ids) => ((ids 0).val, files, ids.next)

theorem toUTF8_of_fromUTF8? {content : ByteArray} {text : String}
    (read : String.fromUTF8? content = some text) : content = text.toUTF8 := by
  unfold String.fromUTF8? at read
  split at read
  · cases read
    rfl
  · cases read

/-- Each answer is one that files may give. -/
theorem Files.serve_answers (r : FileRequest) (files : Files) (ids : Supply) :
    Files.Answers files r (Files.serve r (files, ids)).1 (Files.serve r (files, ids)).2.1 := by
  cases r with
  | inspect path =>
    cases found : files path <;> simp [Files.serve, Files.Answers, found]
  | read path =>
    cases read : (files path).bind String.fromUTF8? with
    | none => simp [Files.serve, Files.Answers, read]
    | some text =>
      obtain ⟨content, found, decoded⟩ := Option.bind_eq_some_iff.mp read
      have kept : files path = some text.toUTF8 := found.trans (toUTF8_of_fromUTF8? decoded ▸ rfl)
      simp only [Files.serve, read]
      exact ⟨kept, rfl⟩
  | rename source target =>
    cases found : files source <;> simp [Files.serve, Files.Answers, found]
  | write path text => rfl
  | freshId => rfl

/-- A file store's action in such files. -/
def FileStore.ran {α : Type} (action : FileStore.Action α) (files : Files) (ids : Supply) :
    Except StorageFault α × (Files × Supply) := action.run.run Files.serve (files, ids)

/-- A workspace in memory, among surroundings that answer all other requests. -/
def inMemory (others : (r : Request) → r.Reply) :
    (r : Request) → Option Document × Supply → r.Reply × (Option Document × Supply)
  | .load, (kept, ids) =>
    let ((doc, kept), ids) := ((MemoryStore.load : StateT _ (StateM Supply) _).run kept).run ids
    (.ok doc, kept, ids)
  | .save doc, (kept, ids) =>
    let (((), kept), ids) :=
      ((MemoryStore.save doc : StateT _ (StateM Supply) _).run kept).run ids
    (.ok (), kept, ids)
  | .freshId, (kept, ids) => ((ids 0).val, kept, ids.next)
  | r, s => (others r, s)

/-- A workspace in a file, among the same surroundings. -/
def onFile (others : (r : Request) → r.Reply) (path : Path) :
    (r : Request) → Files × Supply → r.Reply × (Files × Supply)
  | .load, (files, ids) =>
    let (result, s) := FileStore.ran (FileStore.load path) files ids
    (result.mapError Failure.storage, s)
  | .save doc, (files, ids) =>
    let (result, s) := FileStore.ran (FileStore.save path doc) files ids
    (result.mapError Failure.storage, s)
  | .freshId, (files, ids) => ((ids 0).val, files, ids.next)
  | r, s => (others r, s)

/-- Settings that leave room for the document around them. -/
structure Properties.Storable (props : Properties) : Prop where
  plain : props.Plain
  shallow : (Json.object props).nesting + 3 ≤ Json.maxDepth

theorem Properties.Storable.empty : Properties.Storable [] := ⟨⟨rfl, rfl⟩, by decide⟩

/-- A document that a file can hold, and that has its director. -/
structure Document.Storable (doc : Document) : Prop where
  directed : doc.directorId ≠ ""
  settings : ∀ disk ∈ doc.disks, disk.cloudProperties.Storable

/-- A text that says what a document is. -/
def Says (content : Option ByteArray) (doc : Document) : Prop :=
  ∃ text : String, content = some text.toUTF8 ∧ Document.read.ofText? text = some doc

/-- The settings of a document's disks are all of a kind. -/
def Document.SettingsFit (fits : Properties → Prop) (doc : Document) : Prop :=
  ∀ disk ∈ doc.disks, fits disk.cloudProperties

theorem Document.nesting_toJson {doc : Document} (storable : doc.SettingsFit Properties.Storable) :
    doc.toJson.nesting ≤ Json.maxDepth := by
  have ids : Json.itemNesting (doc.currentReleaseIds.map .string) ≤ 0 :=
    Json.itemNesting_map_le fun id _ => Nat.le_refl 0
  have disks : Json.itemNesting (doc.disks.map DiskRecord.toJson) ≤ Json.maxDepth - 2 := by
    apply Json.itemNesting_map_le
    intro disk recorded
    have := (storable disk recorded).shallow
    simp only [DiskRecord.toJson, Json.nesting, Json.memberNesting] at this ⊢
    omega
  have stemcells : Json.itemNesting (doc.stemcells.map StemcellRecord.toJson) ≤ 1 :=
    Json.itemNesting_map_le fun stemcell _ => by
      simp [StemcellRecord.toJson, Json.nesting, Json.memberNesting]
  have releases : Json.itemNesting (doc.releases.map ReleaseRecord.toJson) ≤ 1 :=
    Json.itemNesting_map_le fun release _ => by
      simp [ReleaseRecord.toJson, Json.nesting, Json.memberNesting]
  have room : Json.maxDepth = 127 := rfl
  simp only [Document.toJson, Json.strings, Json.nesting, Json.memberNesting]
  omega

theorem Document.settings_plain {doc : Document}
    (storable : doc.SettingsFit Properties.Storable) : ∀ props ∈ doc.settings, props.Plain := by
  intro props member
  obtain ⟨disk, recorded, rfl⟩ := List.mem_map.mp member
  exact (storable disk recorded).plain

/-- What is written of a document with such settings says just that document. -/
theorem Document.says_indented {doc : Document} (storable : doc.SettingsFit Properties.Storable) :
    Says (some doc.toJson.indented.toUTF8) doc :=
  ⟨_, rfl, (recovers (settings_plain storable)).indented (nesting_toJson storable)⟩

theorem Document.says_compact {doc : Document} (storable : doc.SettingsFit Properties.Storable) :
    Says (some doc.toJson.compact.toUTF8) doc :=
  ⟨_, rfl, (recovers (settings_plain storable)).compact (nesting_toJson storable)⟩

theorem fromUTF8?_toUTF8 (text : String) : String.fromUTF8? text.toUTF8 = some text := by
  simp only [String.fromUTF8?, String.toUTF8_eq_toByteArray, dif_pos text.isValidUTF8]
  rfl

section Serving

variable {path : Path} {α β : Type} {doc : Document} {files files' : Files} {ids ids' : Supply}

theorem ran_bind {x : FileStore.Action α} {a : α}
    (first : FileStore.ran x files ids = (.ok a, files', ids')) (g : α → FileStore.Action β) :
    FileStore.ran (x >>= g) files ids = FileStore.ran (g a) files' ids' := by
  unfold FileStore.ran at first ⊢
  rw [ExceptT.run_bind, Program.run_bind, first]

theorem ran_inspect (g : PathStatus → FileStore.Action α) :
    FileStore.ran (FileStore.inspect path >>= g) files ids =
      FileStore.ran (g (if (files path).isSome then .present else .missing)) files ids := rfl

theorem ran_read (g : Option String → FileStore.Action α) :
    FileStore.ran (FileStore.read path >>= g) files ids =
      FileStore.ran (g ((files path).bind String.fromUTF8?)) files ids := rfl

theorem ran_write {text : String} (g : Bool → FileStore.Action α) :
    FileStore.ran (FileStore.write path text >>= g) files ids =
      FileStore.ran (g true) (files.put path (some text.toUTF8)) ids := rfl

theorem ran_rename {source target : Path} {content : ByteArray}
    (found : files source = some content) (g : Bool → FileStore.Action α) :
    FileStore.ran (FileStore.rename source target >>= g) files ids =
      FileStore.ran (g true) ((files.put source none).put target (some content)) ids := by
  have answered : Files.serve (.rename source target) (files, ids) =
      (true, (files.put source none).put target (some content), ids) := by
    simp only [Files.serve, found]
    rfl
  change Program.run Files.serve (g (Files.serve (.rename source target) (files, ids)).1).run
    (Files.serve (.rename source target) (files, ids)).2 = _
  rw [answered]
  rfl

theorem ran_freshId (g : String → FileStore.Action α) :
    FileStore.ran (FileStore.freshId >>= g) files ids =
      FileStore.ran (g (ids 0)) files ids.next := rfl

/-- Writing aside and renaming puts the document in its file. -/
theorem ran_save (path : Path) (doc : Document) (files : Files) (ids : Supply) : ∃ files',
    FileStore.ran (FileStore.save path doc) files ids = (.ok (), files', ids) ∧
      files' path = some doc.toJson.indented.toUTF8 := by
  let content := some doc.toJson.indented.toUTF8
  refine ⟨((files.put path.aside content).put path.aside none).put path content, ?_,
    Files.put_same ..⟩
  rw [FileStore.save, ran_write, if_pos rfl, ran_rename (Files.put_same ..), if_pos rfl]
  rfl

/-- A new workspace is given its director. -/
theorem ran_load_missing (ids : Supply) (missing : files path = none) : ∃ files',
    FileStore.ran (FileStore.load path) files ids = (.ok (.fresh (ids 0)), files', ids.next) ∧
      files' path = some (Document.fresh (ids 0)).toJson.indented.toUTF8 := by
  obtain ⟨files', saved, found⟩ := ran_save path (.fresh (ids 0)) files ids.next
  refine ⟨files', ?_, found⟩
  rw [FileStore.load, ran_inspect]
  simp only [missing, Option.isSome_none, Bool.false_eq_true, if_false]
  rw [FileStore.mint, ran_freshId]
  exact ran_bind saved _

theorem ran_load_present (ids : Supply) (said : Says (files path) doc)
    (directed : doc.directorId ≠ "") :
    FileStore.ran (FileStore.load path) files ids = (.ok doc, files, ids) := by
  obtain ⟨text, content, parsed⟩ := said
  rw [FileStore.load, ran_inspect]
  simp only [content, Option.isSome_some, if_true]
  rw [FileStore.loadExisting, ran_read]
  simp only [content, Option.bind_some, fromUTF8?_toUTF8, parsed]
  rw [if_neg (by simpa using directed)]
  rfl

end Serving

section Lockstep

variable {others : (r : Request) → r.Reply} {path : Path} {α β : Type} {doc : Document}
  {kept : Option Document} {files : Files} {ids : Supply}

/-- A program comes to the same from both workspaces, with the same identifiers still to come, and
to what is wanted of them together. -/
def Lockstep (others : (r : Request) → r.Reply) (path : Path) (x : Program Effects α)
    (post : α → Option Document → Files → Prop) (kept : Option Document) (files : Files)
    (ids : Supply) : Prop :=
  ∃ a kept' files' ids', x.run (inMemory others) (kept, ids) = (a, kept', ids') ∧
    x.run (onFile others path) (files, ids) = (a, files', ids') ∧ post a kept' files'

theorem Lockstep.bind {x : Program Effects α} {g : α → Program Effects β}
    {Q : α → Option Document → Files → Prop} {post : β → Option Document → Files → Prop}
    (first : Lockstep others path x Q kept files ids)
    (second : ∀ a kept files ids, Q a kept files →
      Lockstep others path (g a) post kept files ids) :
    Lockstep others path (x >>= g) post kept files ids := by
  obtain ⟨a, kept₁, files₁, ids₁, ranM, ranF, reached⟩ := first
  obtain ⟨b, kept₂, files₂, ids₂, ranM', ranF', wanted⟩ := second a kept₁ files₁ ids₁ reached
  refine ⟨b, kept₂, files₂, ids₂, ?_, ?_, wanted⟩
  · rw [Program.run_bind, ranM, ranM']
  · rw [Program.run_bind, ranF, ranF']

/-- Both workspaces keep a document. -/
structure Holding (path : Path) (doc : Document) (kept : Option Document) (files : Files) :
    Prop where
  kept : kept = some doc
  said : Says (files path) doc
  storable : doc.Storable

/-- Nothing was ever kept in either workspace. -/
structure Vacant (path : Path) (kept : Option Document) (files : Files) : Prop where
  kept : kept = none
  missing : files path = none

def Ready (path : Path) (kept : Option Document) (files : Files) : Prop :=
  Vacant path kept files ∨ ∃ doc, Holding path doc kept files

/-- A store on a file goes by its own file alone. -/
theorem Ready.elsewhere {files' : Files} (ready : Ready path kept files)
    (same : files' path = files path) : Ready path kept files' := by
  rcases ready with ⟨kept, missing⟩ | ⟨doc, kept, said, storable⟩
  · exact .inl ⟨kept, same ▸ missing⟩
  · exact .inr ⟨doc, kept, same ▸ said, storable⟩

theorem save_lockstep {new : Document} (storable : new.Storable) :
    Lockstep others path (Engine.save new).run
      (fun result kept files => result = .ok () ∧ Holding path new kept files) kept files ids := by
  obtain ⟨files', ran, found⟩ := ran_save path new files ids
  have said : Says (files' path) new := found ▸ Document.says_indented storable.settings
  refine ⟨.ok (), some new, files', ids, rfl, ?_, rfl, rfl, said, storable⟩
  have answered : onFile others path (.save new) (files, ids) = (.ok (), files', ids) := by
    rw [onFile, ran]
    rfl
  exact answered

theorem load_lockstep (ready : Ready path kept files) :
    Lockstep others path Engine.load.run
      (fun result kept files => ∃ doc, result = .ok doc ∧ Holding path doc kept files)
      kept files ids := by
  rcases ready with vacant | ⟨doc, holding⟩
  · let new := Document.fresh (ids 0)
    have storable : new.Storable := ⟨(ids 0).property, nofun⟩
    obtain ⟨files', ran, found⟩ := ran_load_missing ids vacant.missing
    have onDisk : onFile others path .load (files, ids) = (.ok new, files', ids.next) := by
      rw [onFile, ran]
      rfl
    have kept' : inMemory others .load (kept, ids) = (.ok new, some new, ids.next) := by
      rw [vacant.kept]
      rfl
    exact ⟨.ok new, some new, files', ids.next, kept', onDisk, new, rfl, rfl,
      found ▸ Document.says_indented storable.settings, storable⟩
  · have ran := ran_load_present ids holding.said holding.storable.directed
    have onDisk : onFile others path .load (files, ids) = (.ok doc, files, ids) := by
      rw [onFile, ran]
      rfl
    have kept' : inMemory others .load (kept, ids) = (.ok doc, kept, ids) := by
      rw [holding.kept]
      rfl
    exact ⟨.ok doc, kept, files, ids, kept', onDisk, doc, rfl, holding⟩

theorem Lockstep.pure {a : α} {post : α → Option Document → Files → Prop}
    (wanted : post a kept files) : Lockstep others path (pure a) post kept files ids :=
  ⟨a, kept, files, ids, rfl, rfl, wanted⟩

theorem Lockstep.within {context : String} {x : Engine α}
    {Q : Except Failure α → Option Document → Files → Prop}
    {post : Except Failure α → Option Document → Files → Prop}
    (first : Lockstep others path x.run Q kept files ids)
    (implies : ∀ result kept files, Q result kept files →
      post (result.mapError (Failure.within context)) kept files) :
    Lockstep others path (within context x).run post kept files ids :=
  first.bind fun _ _ _ _ reached => Lockstep.pure (implies _ _ _ reached)

theorem Lockstep.seq {x : Engine α} {g : α → Engine β}
    {Q : Except Failure α → Option Document → Files → Prop}
    {post : Except Failure β → Option Document → Files → Prop}
    (first : Lockstep others path x.run Q kept files ids)
    (second : ∀ a kept files ids, Q (.ok a) kept files →
      Lockstep others path (g a).run post kept files ids)
    (failed : ∀ e kept files, Q (.error e) kept files → post (.error e) kept files) :
    Lockstep others path (x >>= g).run post kept files ids := by
  refine Lockstep.bind first fun result kept files ids reached => ?_
  cases result with
  | ok a => exact second a kept files ids reached
  | error e => exact Lockstep.pure (failed e kept files reached)

theorem look_lockstep (ready : Ready path kept files) :
    Lockstep others path look.run
      (fun result kept files => ∃ doc, result = .ok doc ∧ Holding path doc kept files)
      kept files ids := by
  refine (load_lockstep ready).within ?_
  rintro _ kept files ⟨doc, rfl, holding⟩
  exact ⟨doc, rfl, holding⟩

/-- Both workspaces keep the same document. -/
def Held (path : Path) (kept : Option Document) (files : Files) : Prop :=
  ∃ doc, Holding path doc kept files

theorem read_lockstep (g : Document → α) (ready : Ready path kept files) :
    Lockstep others path (do return g (← look) : Engine α).run (fun _ => Held path)
      kept files ids := by
  refine (look_lockstep ready).seq ?_ nofun
  rintro doc kept files ids ⟨_, ⟨⟩, holding⟩
  exact Lockstep.pure ⟨doc, holding⟩

/-- What an edit makes of a document can be saved. -/
theorem change_lockstep {edit : Document → Engine (α × Document)} (ready : Ready path kept files)
    (edited : ∀ doc kept files ids, Holding path doc kept files →
      Lockstep others path (edit doc).run (fun result kept files => Held path kept files ∧
        ∀ r, result = .ok r → r.2.Storable) kept files ids) :
    Lockstep others path (change edit).run (fun _ => Held path) kept files ids := by
  refine (look_lockstep ready).seq ?_ nofun
  rintro doc kept files ids ⟨_, ⟨⟩, holding⟩
  refine (edited doc kept files ids holding).seq ?_ fun _ _ _ reached => reached.1
  rintro ⟨result, new⟩ kept files ids ⟨-, storable⟩
  have saved : Lockstep others path (within "Saving new config" (Engine.save new)).run
      (fun _ => Held path) kept files ids := by
    refine (save_lockstep (storable _ rfl)).within ?_
    rintro _ kept files ⟨-, holding⟩
    exact ⟨new, holding⟩
  exact saved.seq (fun _ _ _ _ held => Lockstep.pure held) fun _ _ _ held => held

theorem update_lockstep {edit : Document → Document} (ready : Ready path kept files)
    (keeps : ∀ doc : Document, doc.Storable → (edit doc).Storable) :
    Lockstep others path (update edit).run (fun _ => Held path) kept files ids := by
  refine change_lockstep ready fun doc kept files ids holding => Lockstep.pure ⟨⟨doc, holding⟩, ?_⟩
  rintro _ ⟨⟩
  exact keeps doc holding.storable

theorem tryUpdate_lockstep {edit : Document → Except StateFault Document}
    (ready : Ready path kept files)
    (keeps : ∀ doc new : Document, edit doc = .ok new → doc.Storable → new.Storable) :
    Lockstep others path (tryUpdate edit).run (fun _ => Held path) kept files ids := by
  refine change_lockstep ready fun doc kept files ids holding => ?_
  cases edited : edit doc with
  | error fault => exact Lockstep.pure ⟨⟨doc, holding⟩, nofun⟩
  | ok new =>
    refine Lockstep.pure ⟨⟨doc, holding⟩, ?_⟩
    rintro _ ⟨⟩
    exact keeps doc new edited holding.storable

theorem freshId_lockstep {g : String → Engine α}
    {post : Except Failure α → Option Document → Files → Prop}
    (later : ∀ id ids, Lockstep others path (g id).run post kept files ids) :
    Lockstep others path (Engine.freshId >>= g).run post kept files ids := by
  obtain ⟨a, kept', files', ids', ranM, ranF, wanted⟩ := later (ids 0) ids.next
  exact ⟨a, kept', files', ids', ranM, ranF, wanted⟩

/-- A document with no other disks is as storable. -/
theorem Document.Storable.of_disks {new : Document} (storable : doc.Storable)
    (director : new.directorId = doc.directorId) (disks : ∀ disk ∈ new.disks, disk ∈ doc.disks) :
    new.Storable where
  directed := director ▸ storable.directed
  settings disk recorded := storable.settings disk (disks disk recorded)

/-- What is recorded in the call leaves room for the document around it. -/
def RepositoryCall.Storable : RepositoryCall → Prop
  | .saveDisk _ _ properties => properties.Storable
  | _ => True

theorem perform_lockstep {call : RepositoryCall} (storable : call.Storable)
    (ready : Ready path kept files) :
    Lockstep others path call.perform.run (fun _ => Held path) kept files ids := by
  cases call with
  | currentVm | currentDisk | findDisk | allDisks | currentStemcell | findStemcell | allStemcells
  | currentReleases | findRelease | allReleases => exact read_lockstep _ ready
  | setCurrentVm | clearCurrentVm | clearCurrentDisk | clearCurrentStemcell | deleteStemcell
  | clearCurrentReleases | deleteRelease =>
    exact update_lockstep ready fun _ storable => storable.of_disks rfl fun _ recorded => recorded
  | deleteDisk id =>
    exact update_lockstep ready fun _ storable =>
      storable.of_disks rfl fun _ recorded => List.mem_of_mem_filter recorded
  | setCurrentDisk id =>
    refine tryUpdate_lockstep ready fun doc new edited storable => ?_
    obtain ⟨-, rfl⟩ := Document.eq_of_pointToDisk edited
    exact storable.of_disks rfl fun _ recorded => recorded
  | setCurrentStemcell id =>
    refine tryUpdate_lockstep ready fun doc new edited storable => ?_
    obtain ⟨-, rfl⟩ := Document.eq_of_pointToStemcell edited
    exact storable.of_disks rfl fun _ recorded => recorded
  | setCurrentReleases ids =>
    refine tryUpdate_lockstep ready fun doc new edited storable => ?_
    obtain ⟨-, rfl⟩ := Document.eq_of_pointToReleases edited
    exact storable.of_disks rfl fun _ recorded => recorded
  | saveDisk cid size properties =>
    refine change_lockstep ready fun doc kept files ids holding => ?_
    refine freshId_lockstep fun id ids => Lockstep.pure ⟨⟨doc, holding⟩, ?_⟩
    rintro _ ⟨⟩
    refine ⟨holding.storable.directed, fun disk recorded => ?_⟩
    obtain old | new := List.mem_append.mp recorded
    · exact holding.storable.settings disk old
    · obtain rfl := List.mem_singleton.mp new
      exact storable
  | saveStemcell name version cid =>
    refine change_lockstep ready fun doc kept files ids holding => ?_
    dsimp only
    cases doc.stemcellCollision name version cid with
    | some fault => exact Lockstep.pure ⟨⟨doc, holding⟩, nofun⟩
    | none =>
      refine freshId_lockstep fun id ids => Lockstep.pure ⟨⟨doc, holding⟩, ?_⟩
      rintro _ ⟨⟩
      exact holding.storable.of_disks rfl fun _ recorded => recorded
  | saveRelease name version =>
    refine change_lockstep ready fun doc kept files ids holding => ?_
    refine freshId_lockstep fun id ids => Lockstep.pure ⟨⟨doc, holding⟩, ?_⟩
    rintro _ ⟨⟩
    exact holding.storable.of_disks rfl fun _ recorded => recorded

end Lockstep

/-- What happens to the two workspaces: a call to both, or the store on the file is dropped and
opened again. A store holds nothing but its path, so it goes by what its file holds then; the other
files may have become anything in between. -/
inductive SessionStep
  | call (call : RepositoryCall)
  | reopen (elsewhere : Files)

def SessionStep.Storable : SessionStep → Prop
  | .call asked => asked.Storable
  | .reopen _ => True

/-- Each call returns the same from both workspaces, and then the file says what is in memory. -/
def Interchangeable (others : (r : Request) → r.Reply) (path : Path) :
    List SessionStep → Option Document × Supply → Files × Supply → Prop
  | [], _, _ => True
  | .reopen elsewhere :: rest, m, (files, ids) =>
    Interchangeable others path rest m (elsewhere.put path (files path), ids)
  | .call asked :: rest, m, f =>
    let memory := asked.perform.run.run (inMemory others) m
    let file := asked.perform.run.run (onFile others path) f
    memory.1 = file.1 ∧ (∃ doc, memory.2.1 = some doc ∧ Says (file.2.1 path) doc) ∧
      Interchangeable others path rest memory.2 file.2

/-- A workspace in a file and one in memory take each other's place over any calls with storable
settings, with the store on the file opened again at any time: from an empty workspace on, and from
a document with its director, whatever text the file says it with. -/
theorem stores_interchangeable (others : (r : Request) → r.Reply) (path : Path) (ids : Supply)
    {steps : List SessionStep} {kept : Option Document} {files : Files}
    (storable : ∀ step ∈ steps, step.Storable) (ready : Ready path kept files) :
    Interchangeable others path steps (kept, ids) (files, ids) := by
  induction steps generalizing kept files ids with
  | nil => exact trivial
  | cons step rest ih =>
    have later := fun step member => storable step (List.mem_cons_of_mem _ member)
    cases step with
    | reopen elsewhere =>
      exact ih ids later (ready.elsewhere (Files.put_same ..))
    | call asked =>
      have first : asked.Storable := storable _ (List.mem_cons_self ..)
      have same : Lockstep others path asked.perform.run (fun _ => Held path) kept files ids :=
        perform_lockstep first ready
      obtain ⟨result, kept', files', ids', inMemory, onFile, doc, holding⟩ := same
      rw [Interchangeable, inMemory, onFile]
      exact ⟨rfl, ⟨doc, holding.kept, holding.said⟩, ih ids' later (.inr ⟨doc, holding⟩)⟩

/-- Surroundings without a cloud, an agent and a renderer. -/
def silent : (r : Request) → r.Reply
  | .cloud call => .error ⟨call.method, .notImplemented, ""⟩
  | .agent _ | .render _ | .load | .save _ => .error (.storage .notRead)
  | .connect _ => .error ⟨""⟩
  | .close _ => .ok ()
  | .now => (0 : Nat)
  | .freshId => ""
  | .forward .. | .report _ | .sleep _ => ()

def Supply.counted : Supply := fun n => ⟨"id-" ++ toString n, by
  intro same
  have := congrArg String.length same
  simp [String.length_append] at this⟩

/-- A disk is recorded and made current, with the store opened again in between. -/
def recordDisk (id : String) : List SessionStep :=
  [.call (.saveDisk "cid" 1024 .varied), .reopen fun _ => none, .call (.setCurrentDisk id),
    .call .currentDisk]

theorem recordDisk_storable (id : String) : ∀ step ∈ recordDisk id, step.Storable := by
  have varied : Properties.Storable .varied := ⟨Properties.varied_plain, by decide⟩
  simp [recordDisk, SessionStep.Storable, RepositoryCall.Storable, varied]

/-- Every file holds a document without line breaks. -/
def Files.compact (doc : Document) : Files := fun _ => some doc.toJson.compact.toUTF8

theorem stores_interchangeable_disk :
    Interchangeable silent ⟨["state"]⟩ (recordDisk "id-1") (none, .counted)
      (fun _ => none, .counted) ∧
    Interchangeable silent ⟨["state"]⟩ (recordDisk "id-0") (some (.fresh "d"), .counted)
      (.compact (.fresh "d"), .counted) := by
  have storable : (Document.fresh "d").Storable := ⟨by decide, nofun⟩
  have said (path : Path) : Says (Files.compact (.fresh "d") path) (.fresh "d") :=
    Document.says_compact storable.settings
  constructor
  · exact stores_interchangeable _ _ _ (recordDisk_storable _) (.inl ⟨rfl, rfl⟩)
  · exact stores_interchangeable _ _ _ (recordDisk_storable _) (.inr ⟨_, rfl, said _, storable⟩)

end Reconciler
