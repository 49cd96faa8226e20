import Reconciler.Proofs.PledgedStores
import Reconciler.Proofs.RecordDeletions

/-!
Sweeps: the records that are not current are deleted one by one, in stored order, until a deletion
fails. Disks and stemcells go from the cloud first; a release has nothing there. The list of what is
to go is made before the first deletion, and each deletion changes the document that it was made of.
-/
namespace Reconciler

open Engine Repository

/-- Those who sweep their records. -/
inductive Manager
  | disks
  | stemcells
  | releases

namespace Manager

abbrev Record : Manager → Type
  | .disks => DiskRecord
  | .stemcells => StemcellRecord
  | .releases => ReleaseRecord

def deleteUnused : Manager → Stage → Engine Unit
  | .disks => Disks.deleteUnused
  | .stemcells => Stemcells.deleteUnused
  | .releases => Releases.deleteUnused

def all : (manager : Manager) → Document → List manager.Record
  | .disks => Document.disks
  | .stemcells => Document.stemcells
  | .releases => Document.releases

def key : (manager : Manager) → manager.Record → String
  | .disks => DiskRecord.id
  | .stemcells => StemcellRecord.id
  | .releases => ReleaseRecord.id

/-- A pointer of the document is to the record. -/
def isCurrent : (manager : Manager) → Document → manager.Record → Bool
  | .disks, doc, disk => doc.currentDiskId != "" && DiskRecord.id disk == doc.currentDiskId
  | .stemcells, doc, stemcell =>
    doc.currentStemcellId != "" && StemcellRecord.id stemcell == doc.currentStemcellId
  | .releases, doc, release => doc.currentReleaseIds.contains (ReleaseRecord.id release)

/-- The same document with these records of the kind. -/
def put : (manager : Manager) → List manager.Record → Document → Document
  | .disks, records, doc => { doc with disks := records }
  | .stemcells, records, doc => { doc with stemcells := records }
  | .releases, records, doc => { doc with releases := records }

/-- Records are told apart by their ids, and disks by their cids as well. -/
def Distinct : Manager → Document → Prop
  | .disks, doc => (doc.disks.map (·.id)).Nodup ∧ (doc.disks.map (·.cid)).Nodup
  | .stemcells, doc => (doc.stemcells.map (·.id)).Nodup
  | .releases, doc => (doc.releases.map (·.id)).Nodup

/-- The cloud error that stops nothing. -/
def gone : Manager → Option CloudErrorKind
  | .disks => some .diskNotFound
  | .stemcells => some .stemcellNotFound
  | .releases => none

/-- The name of the step in which a record goes. -/
def step : (manager : Manager) → manager.Record → String
  | .disks, disk => s!"Deleting unused disk '{DiskRecord.cid disk}'"
  | .stemcells, stemcell => s!"Deleting unused stemcell '{StemcellRecord.cid stemcell}'"
  | .releases, release => s!"Deleting unused release '{ReleaseRecord.name release}/{
      ReleaseRecord.version release}'"

/-- What the cloud is asked when a record goes, and its reply. For a release it is not asked, which
is as good as done. -/
inductive Asked : (manager : Manager) → manager.Record → List Exchange →
    Except CloudError Unit → Prop
  | disk (disk : DiskRecord) (reply : Except CloudError Unit) :
      Asked .disks disk [⟨.cloud (.deleteDisk disk.cid), reply⟩] reply
  | stemcell (stemcell : StemcellRecord) (reply : Except CloudError Unit) :
      Asked .stemcells stemcell [⟨.cloud (.deleteStemcell stemcell.cid), reply⟩] reply
  | release (release : ReleaseRecord) : Asked .releases release [] (.ok ())

variable (manager : Manager)

/-- Replies with which a record goes, and how its step ends. -/
inductive Passes : Except CloudError Unit → Outcome → Prop
  | deleted : Passes (.ok ()) .finished
  | absent {error : CloudError} (isGone : manager.gone = some error.kind) :
      Passes (.error error) (.skipped error.text)

/-- Why a record stays: the cloud has refused, or the store has failed after a reply with which the
record would have gone. -/
inductive Halts (c : Conduct) : Except CloudError Unit → Failure → Prop
  | refused {error : CloudError} {context : String} (other : manager.gone ≠ some error.kind) :
      Halts c (.error error) (.within context (.cloud error))
  | lost {reply : Except CloudError Unit} {outcome : Outcome} {failure : Failure}
      (passed : manager.Passes reply outcome) (store : c.StoreFailure failure) :
      Halts c reply failure

/-- A sweep over some records: which of them are gone, the calls to the cloud, the steps, and how it
ended. -/
inductive Sweep (c : Conduct) (stage : Stage) : List manager.Record → List manager.Record →
    List Exchange → List Step → Except Failure Unit → Prop
  | done : Sweep c stage [] [] [] [] (.ok ())
  | next {record : manager.Record} {records swept : List manager.Record}
      {deeds later : List Exchange} {steps : List Step} {reply : Except CloudError Unit}
      {outcome : Outcome} {result : Except Failure Unit}
      (asked : manager.Asked record deeds reply) (passed : manager.Passes reply outcome)
      (rest : Sweep c stage records swept later steps result) :
      Sweep c stage (record :: records) (record :: swept) (deeds ++ later)
        (stage.told (manager.step record) (.ok outcome) :: steps) result
  | halted {record : manager.Record} {records : List manager.Record} {deeds : List Exchange}
      {reply : Except CloudError Unit} {failure : Failure}
      (asked : manager.Asked record deeds reply) (halts : manager.Halts c reply failure) :
      Sweep c stage (record :: records) [] deeds
        [stage.told (manager.step record) (.error failure)] (.error failure)

/-- Without a record, and without the pointers to it. -/
def remove : (manager : Manager) → manager.Record → Document → Document
  | .disks, disk => Document.removeDisk (DiskRecord.id disk)
  | .stemcells, stemcell => Document.removeStemcell (StemcellRecord.id stemcell)
  | .releases, release => Document.removeRelease (ReleaseRecord.id release)

/-- The records that are not current, in stored order. -/
def unused (doc : Document) : List manager.Record :=
  (manager.all doc).filter (!manager.isCurrent doc ·)

/-- Without some records, and with all the rest as it was. -/
def without (swept : List manager.Record) (doc : Document) : Document :=
  let kept := (manager.all doc).filter fun record => manager.key record ∉ swept.map manager.key
  manager.put kept doc

section Documents

variable {manager} {doc : Document} {record : manager.Record} {swept : List manager.Record}

@[simp] theorem all_put (records : List manager.Record) :
    manager.all (manager.put records doc) = records := by cases manager <;> rfl

@[simp] theorem all_without : manager.all (manager.without swept doc) =
    (manager.all doc).filter fun record => manager.key record ∉ swept.map manager.key := all_put _

@[simp] theorem all_withDirector (id : String) :
    manager.all (doc.withDirector id) = manager.all doc := by cases manager <;> rfl

@[simp] theorem isCurrent_withDirector (id : String) :
    manager.isCurrent (doc.withDirector id) record = manager.isCurrent doc record := by
  cases manager <;> rfl

theorem without_undirected : Document.Undirected (manager.without swept) := by
  intro doc id
  cases manager <;> rfl

theorem put_all : manager.put (manager.all doc) doc = doc := by cases manager <;> rfl

theorem without_nil : manager.without [] doc = doc := by
  have every : (manager.all doc).filter (fun record => manager.key record ∉ [].map manager.key) =
      manager.all doc := List.filter_eq_self.mpr (by simp)
  rw [without, every, put_all]

theorem Distinct.keys (distinct : manager.Distinct doc) :
    ((manager.all doc).map manager.key).Nodup := by
  cases manager with
  | disks => exact distinct.1
  | stemcells | releases => exact distinct

theorem Distinct.without (distinct : manager.Distinct doc) :
    manager.Distinct (manager.without swept doc) := by
  cases manager with
  | disks =>
    exact ⟨distinct.1.sublist (List.filter_sublist.map _),
      distinct.2.sublist (List.filter_sublist.map _)⟩
  | stemcells | releases => exact distinct.sublist (List.filter_sublist.map _)

/-- A pointer to another record stays. -/
theorem pointer_kept {pointer id : String} (other : (pointer != "" && id == pointer) = false) :
    (if pointer = id then "" else pointer) = pointer := by
  simp only [Bool.and_eq_false_iff, bne_eq_false_iff_eq, beq_eq_false_iff_ne] at other
  grind

/-- No pointer is to a record that is not current. -/
theorem remove_eq_put (unused : manager.isCurrent doc record = false) : manager.remove record doc =
    manager.put ((manager.all doc).filter (manager.key · != manager.key record)) doc := by
  cases manager with
  | disks =>
    change doc.removeDisk record.id = { doc with disks := doc.disks.filter (·.id != record.id) }
    rw [Document.removeDisk, pointer_kept unused]
  | stemcells =>
    change doc.removeStemcell record.id =
      { doc with stemcells := doc.stemcells.filter (·.id != record.id) }
    rw [Document.removeStemcell, pointer_kept unused]
  | releases =>
    change doc.removeRelease record.id =
      { doc with releases := doc.releases.filter (·.id != record.id) }
    have kept : doc.currentReleaseIds.filter (· != record.id) = doc.currentReleaseIds := by
      refine List.filter_eq_self.mpr fun id pointed => bne_iff_ne.mpr fun same => ?_
      simp [isCurrent, ← same, pointed] at unused
    rw [Document.removeRelease, kept]

/-- One more record goes. -/
theorem remove_without (unused : manager.isCurrent doc record = false) :
    manager.remove record (manager.without swept doc) =
      manager.without (swept ++ [record]) doc := by
  have unused' : manager.isCurrent (manager.without swept doc) record = false := by
    cases manager <;> exact unused
  have fewer : ((manager.all doc).filter fun r => manager.key r ∉ swept.map manager.key).filter
      (manager.key · != manager.key record) =
      (manager.all doc).filter fun r => manager.key r ∉ (swept ++ [record]).map manager.key := by
    rw [List.filter_filter]
    apply List.filter_congr
    intro r _
    rw [Bool.eq_iff_iff]
    simp [and_comm]
  rw [remove_eq_put unused', all_without, fewer]
  cases manager <;> rfl

end Documents

/-- What is to be deleted. -/
def findUnused : (manager : Manager) → Engine (List manager.Record)
  | .disks => within "Finding unused disks" Disks.findUnused
  | .stemcells => within "Finding unused stemcells" Stemcells.findUnused
  | .releases => Releases.findUnused

/-- The deletion of a record, without its step. -/
def deletion : (manager : Manager) → manager.Record → Engine Outcome
  | .disks, disk => skipIfGone .diskNotFound Failure.text (DiskRecord.delete disk)
  | .stemcells, stemcell =>
    skipIfGone .stemcellNotFound Failure.text (StemcellRecord.delete stemcell)
  | .releases, release => do
    within "Deleting release record" (Releases.delete (ReleaseRecord.id release))
    return .finished

theorem deleteUnused_eq (stage : Stage) : manager.deleteUnused stage = (do
    let unused ← manager.findUnused
    forEach unused fun record =>
      discard <| performStep stage (manager.step record) (manager.deletion record)) := by
  cases manager <;> rfl

def part : Manager → Part
  | .disks => .disks
  | .stemcells => .stemcells
  | .releases => .releases

section Pieces

variable {manager} {c : Conduct} {s : Surroundings} {record : manager.Record}

variable (manager) in
theorem findUnused_touches : manager.findUnused.Touches [] := by
  cases manager with
  | disks => exact Keeps.within Disks.findUnused_heeds
  | stemcells =>
    refine Keeps.within (Keeps.bind (Keeps.within (read_heeds _)) fun _ => ?_)
    exact Keeps.bind (Keeps.within (read_heeds _)) fun _ => Keeps.pure _
  | releases =>
    refine Keeps.bind (Keeps.within (read_heeds _)) fun _ => ?_
    exact Keeps.bind (Keeps.within (read_heeds _)) fun _ => Keeps.pure _

theorem findUnused_asks : manager.findUnused.Asks Request.IsRecord := by
  cases manager with
  | disks => exact Disks.findUnused_asks.within
  | stemcells => exact Stemcells.findUnused_asks.within
  | releases => exact Releases.findUnused_asks

theorem deletion_touches : (manager.deletion record).Touches [manager.part] := by
  cases manager with
  | disks => exact Keeps.skipIfGone record.delete_touches
  | stemcells =>
    refine Keeps.skipIfGone (Keeps.deleteThenForget (fun _ _ => tryCloud_heeds ?_) ?_)
    · exact Guard.sparing_cloud (by simp [CloudCall.part, part])
    · exact Keeps.within (Stemcells.delete_touches record.id)
  | releases =>
    exact Keeps.bind (Keeps.within (Releases.delete_touches record.id)) fun _ => Keeps.pure _

theorem deletion_silent : (manager.deletion record).Asks Request.IsSilent := by
  have cloud (call : CloudCall) : (tryCloud call).Only Request.IsSilent := ⟨rfl, fun _ => trivial⟩
  cases manager with
  | disks =>
    exact .skipIfGone (.deleteThenForget (cloud _) (DiskRecord.forget_asks _).ofRecords)
  | stemcells => exact .skipIfGone (.deleteThenForget (cloud _) (update_asks _).within.ofRecords)
  | releases => exact .bind (update_asks _).within.ofRecords fun _ => .pure _

/-- What the shelf takes for its current record is what the pointer is to. -/
theorem current_all {ρ : Type} [Recorded ρ] {d : Shelf ρ} {r : ρ} (member : r ∈ d.records) :
    d.current.all (Recorded.recordId · != Recorded.recordId r) =
      !(d.pointer != "" && Recorded.recordId r == d.pointer) := by
  rw [Bool.eq_iff_iff, Option.all_eq_true]
  simp only [Bool.not_eq_true', Bool.and_eq_false_iff, bne_eq_false_iff_eq, beq_eq_false_iff_ne,
    bne_iff_ne]
  constructor
  · intro others
    by_contra! pointed
    have found : ∃ now, d.current = some now ∧ Recorded.recordId now = d.pointer := by
      obtain ⟨now, found⟩ : ∃ now, d.records.find? (Recorded.recordId · == d.pointer) = some now :=
        Option.isSome_iff_exists.mp (List.find?_isSome.mpr ⟨r, member, by simp [pointed.2]⟩)
      refine ⟨now, ?_, by simpa using List.find?_some found⟩
      simp [Shelf.current, pointed.1, found]
    obtain ⟨now, current, same⟩ := found
    exact others now current (same.trans pointed.2.symm)
  · intro unpointed now current same
    obtain ⟨nonempty, points⟩ := Shelf.pointer_of_current current
    exact unpointed.elim nonempty fun other => other (same.symm.trans points.symm)

theorem read_lost {g : Guard} {α : Type} (f : Document → α) :
    Meets c g s (do return f (← look)) (fun _ _ => True) fun e _ => c.StoreFailure e :=
  read_meets (fun _ _ => trivial) fun _ lost => lost

theorem findUnused_lost : Meets c .none s manager.findUnused (fun _ _ => True)
    fun e _ => c.StoreFailure e := by
  cases manager with
  | disks =>
    apply Meets.within
    apply Meets.bind (Meets.within (read_lost _))
    intro _ t _
    exact Meets.bind (Meets.within (read_lost _)) fun _ _ _ => Meets.pure trivial
  | stemcells =>
    apply Meets.within
    apply Meets.bind (Meets.within (read_lost _))
    intro _ t _
    exact Meets.bind (Meets.within (read_lost _)) fun _ _ _ => Meets.pure trivial
  | releases =>
    apply Meets.bind (Meets.within (read_lost _))
    intro _ t _
    exact Meets.bind (Meets.within (read_lost _)) fun _ _ _ => Meets.pure trivial

theorem findUnused_meets : Meets c .none s manager.findUnused
    (fun unused t => unused = manager.unused s.doc ∧ s.Stays t) fun _ t => s.Stays t := by
  cases manager with
  | disks =>
    apply Meets.inContext
    apply Disks.findUnused_meets.weaken
    · rintro _ t ⟨rfl, frame⟩
      refine ⟨List.filter_congr fun r member => ?_, .ofFrame frame⟩
      exact current_all (d := s.disks) member
    · exact fun _ t lost => .ofFrame lost.2
  | stemcells =>
    apply Meets.inContext
    apply Stemcells.findUnused_meets.weaken
    · rintro _ t ⟨rfl, frame⟩
      refine ⟨List.filter_congr fun r member => ?_, .ofFrame frame⟩
      exact current_all (d := s.stemcells) member
    · exact fun _ t lost => .ofFrame lost.2
  | releases =>
    apply Releases.findUnused_meets.weaken
    · rintro _ t ⟨rfl, frame⟩
      refine ⟨List.filter_congr fun r member => ?_, .ofFrame frame⟩
      have uncurrent : r ∈ s.doc.releases.filter _ ↔ _ := Releases.mem_unused
      simp only [List.mem_filter, member, true_and] at uncurrent
      rw [Bool.eq_iff_iff, uncurrent]
      simp [isCurrent]
    · exact fun _ t lost => .ofFrame lost.2

/-- With distinct cids the record that a disk is found under is its own. -/
theorem forgetDisk_eq {disk : DiskRecord} {doc : Document} (distinct : Manager.disks.Distinct doc)
    (member : disk ∈ doc.disks) : doc.forgetDisk disk.cid = doc.removeDisk disk.id :=
  Document.forgetDisk_some (find?_key distinct.2 member)

/-- A record has gone, in a step that ended so. -/
def Removed (manager : Manager) (record : manager.Record) (edit : Document → Document)
    (s : Surroundings) (outcome : Outcome) (t : Surroundings) : Prop :=
  ∃ deeds reply, manager.Asked record deeds reply ∧ manager.Passes reply outcome ∧
    t.deeds = s.deeds ++ deeds ∧ s.Becomes edit t

/-- A record has stayed, in a step that failed so. -/
def Stayed (manager : Manager) (c : Conduct) (record : manager.Record) (s : Surroundings)
    (failure : Failure) (t : Surroundings) : Prop :=
  ∃ deeds reply, manager.Asked record deeds reply ∧ manager.Halts c reply failure ∧
    t.deeds = s.deeds ++ deeds ∧ s.Stays t

theorem passes_of_tolerates {gone : CloudErrorKind} {reply : Except CloudError Unit}
    (same : manager.gone = some gone) (tolerated : gone.Tolerates reply) :
    ∃ outcome, manager.Passes reply outcome := by
  match reply, tolerated with
  | .ok (), _ => exact ⟨_, .deleted⟩
  | .error error, isGone => exact ⟨_, .absent (same.trans (congrArg some (Eq.symm isGone)))⟩

/-- A deletion that a step may show as skipped. -/
theorem skips {gone : CloudErrorKind} {x : Engine Unit} {edit : Document → Document}
    {asked : Except CloudError Unit → Exchange} (same : manager.gone = some gone)
    (about : ∀ reply, manager.Asked record [asked reply] reply)
    (valid : Meets c .none s x (fun _ => DeletionEnds c gone edit asked s (.ok ()))
      fun e => DeletionEnds c gone edit asked s (.error e)) :
    Meets c .none s (skipIfGone gone Failure.text x) (manager.Removed record edit s)
      (manager.Stayed c record s) := by
  apply Meets.skipIfGone
  apply valid.weaken
  · rintro _ t ⟨reply, made, ends⟩
    cases ends with
    | deleted forgotten => exact ⟨_, _, about _, .deleted, made, forgotten⟩
  · rintro e t ⟨reply, made, ends⟩
    cases ends with
    | @absent error isGone forgotten =>
      have kind : (Failure.cloud error).cloudKind = some gone := congrArg some isGone
      rw [if_pos kind]
      exact ⟨_, _, about _, .absent (same.trans kind.symm), made, forgotten⟩
    | @refused error context other kept =>
      have kind : (Failure.within context (.cloud error)).cloudKind ≠ some gone :=
        fun isGone => other (Option.some.inj isGone)
      rw [if_neg kind]
      exact ⟨_, _, about _, .refused fun isGone => kind (isGone.symm.trans same), made, kept⟩
    | unforgotten tolerated lost kept =>
      obtain ⟨_, passed⟩ := passes_of_tolerates same tolerated
      rw [if_neg (by simp [lost.cloudKind])]
      exact ⟨_, _, about _, .lost passed lost, made, kept⟩

/-- A recorded record goes, or the deletion fails and it stays. -/
theorem deletion_meets (distinct : manager.Distinct s.doc) (member : record ∈ manager.all s.doc) :
    Meets c .none s (manager.deletion record)
      (manager.Removed record (manager.remove record) s) (manager.Stayed c record s) := by
  cases manager with
  | disks =>
    apply (skips rfl (.disk record) record.delete_discards).weaken
    · rintro outcome t ⟨deeds, reply, asked, passed, made, forgotten⟩
      refine ⟨deeds, reply, asked, passed, made, ?_⟩
      exact Eq.trans forgotten (forgetDisk_eq distinct member)
    · exact fun _ _ stayed => stayed
  | stemcells => exact skips rfl (.stemcell record) record.delete_discards
  | releases =>
    have asks : (within "Deleting release record" (Releases.delete record.id)).Asks
        Request.IsRecord := (update_asks _).within
    have forgets : Meets c .none s (within "Deleting release record" (Releases.delete record.id))
        (fun _ t => s.Becomes (Document.removeRelease record.id) t)
        fun e t => c.StoreFailure e ∧ s.Stays t := Meets.within (update_becomes fun _ _ => rfl)
    apply Meets.seq (forgets.and asks.keepsDeeds)
    · rintro e t ⟨⟨lost, kept⟩, none⟩
      exact ⟨[], .ok (), .release record, .lost .deleted lost, by simp [none], kept⟩
    · rintro _ t ⟨forgotten, none⟩
      exact Meets.pure ⟨[], .ok (), .release record, .deleted, by simp [none], forgotten⟩

end Pieces

/-- A sweep has come so far: some of the records are gone, and nothing else has changed. -/
structure SweptTo (manager : Manager) (mints : Prop) (swept : List manager.Record)
    (s t : Surroundings) : Prop where
  doc : s.Becomes (manager.without swept) t
  director : s.KeepsDirector mints t

/-- What a sweep leaves behind that got rid of the records `swept` and left the records `left`. -/
structure Swept (manager : Manager) (mints : Prop) (swept left : List manager.Record)
    (s t : Surroundings) : Prop where
  listed : manager.unused s.doc = swept ++ left
  gone : ∀ record ∈ swept, record ∉ manager.all t.doc
  waiting : ∀ record ∈ left, record ∈ manager.all t.doc
  current : ∀ record ∈ manager.all s.doc, manager.isCurrent s.doc record = true →
    record ∈ manager.all t.doc
  order : (manager.all t.doc).Sublist (manager.all s.doc)
  completed : left = [] →
    manager.all t.doc = (manager.all s.doc).filter (manager.isCurrent s.doc)
  others : t.doc = { manager.put (manager.all t.doc) s.doc with directorId := t.doc.directorId }
  director : s.KeepsDirector mints t

/-- How a sweep ends that someone has listened to. -/
def SweepEnds (c : Conduct) (mints : Prop) (stage : Stage) (w : Watched)
    (result : Except Failure Unit) (v : Watched) : Prop :=
  ∃ swept left deeds steps, manager.Swept mints swept left w.now v.now ∧
    v.now.deeds = w.now.deeds ++ deeds ∧ v.heard = w.heard ++ steps.flatMap Step.events ∧
    (manager.Sweep c stage (manager.unused w.now.doc) swept deeds steps result ∧
        (result = .ok () ↔ left = []) ∨
      -- the store has failed before there was a list of what is to go
      (∃ failure, result = .error failure ∧ c.StoreFailure failure) ∧
        swept = [] ∧ deeds = [] ∧ steps = [])

section Loop

variable {manager} {c : Conduct} {mints : Prop} {s t : Surroundings} {record : manager.Record}
  {swept left : List manager.Record}

/-- Who waits to be deleted is recorded and not current. -/
theorem waiting (distinct : manager.Distinct s.doc)
    (listed : manager.unused s.doc = swept ++ record :: left) : record ∈ manager.all s.doc ∧
      manager.isCurrent s.doc record = false ∧ manager.key record ∉ swept.map manager.key := by
  have member : record ∈ manager.unused s.doc := by simp [listed]
  obtain ⟨recorded, uncurrent⟩ := List.mem_filter.mp member
  refine ⟨recorded, by simpa using uncurrent, fun before => ?_⟩
  have keys : ((manager.unused s.doc).map manager.key).Nodup :=
    distinct.keys.sublist (List.filter_sublist.map _)
  rw [listed, List.map_append, List.map_cons, List.nodup_middle, List.nodup_cons] at keys
  exact keys.1 (List.mem_append_left _ before)

theorem SweptTo.recorded (before : manager.SweptTo mints swept s t)
    (distinct : manager.Distinct s.doc)
    (listed : manager.unused s.doc = swept ++ record :: left) :
    manager.Distinct t.doc ∧ record ∈ manager.all t.doc := by
  obtain ⟨recorded, -, waits⟩ := waiting distinct listed
  have doc : t.doc = manager.without swept (s.doc.withDirector t.doc.directorId) := before.doc
  rw [doc]
  refine ⟨Distinct.without ?_, ?_⟩
  · cases manager <;> exact distinct
  · rw [all_without, all_withDirector, List.mem_filter]
    exact ⟨recorded, by simpa using waits⟩

theorem SweptTo.next {u : Surroundings} (before : manager.SweptTo mints swept s t)
    (distinct : manager.Distinct s.doc) (listed : manager.unused s.doc = swept ++ record :: left)
    (gone : t.Becomes (manager.remove record) u) (kept : t.KeepsDirector mints u) :
    manager.SweptTo mints (swept ++ [record]) s u where
  doc := by
    obtain ⟨-, uncurrent, -⟩ := waiting distinct listed
    exact Eq.trans (before.doc.trans gone without_undirected)
      (remove_without (by rw [isCurrent_withDirector, uncurrent]))
  director := before.director.trans kept

/-- One record after the other goes, until a deletion fails. -/
theorem sweepEach_watched {stage : Stage} {w : Watched} (distinct : manager.Distinct s.doc)
    (listed : manager.unused s.doc = swept ++ left)
    (before : manager.SweptTo mints swept s w.now) :
    (forEach left fun record => discard <| performStep stage (manager.step record)
      (manager.deletion record)).run.Meets (c.AnswersWatched mints) (fun _ _ _ _ => True)
      (fun result v => ∃ more deeds steps, manager.Sweep c stage left more deeds steps result ∧
        v.now.deeds = w.now.deeds ++ deeds ∧ v.heard = w.heard ++ steps.flatMap Step.events ∧
        manager.SweptTo mints (swept ++ more) s v.now) w := by
  induction left generalizing swept w with
  | nil => exact ⟨[], [], [], .done, by simp, by simp, by simpa using before⟩
  | cons record left ih =>
    obtain ⟨distinct', recorded⟩ := before.recorded distinct listed
    have deleted := (deletion_meets (c := c) distinct' recorded).keepsDirector mints
      deletion_touches (by cases manager <;> decide)
    rw [forEach, discard_bind]
    change Program.Meets _ _ _ ((stage.step _ id (manager.deletion record)).run >>= _) w
    apply Program.Meets.bind (Stage.step_watched deletion_silent deleted)
    rintro (failure | outcome) v ⟨⟨ended, kept⟩, heard⟩
    · obtain ⟨deeds, reply, asked, halts, made, stays⟩ := ended
      refine ⟨[], deeds, _, .halted asked halts, made, by simpa using heard, ?_⟩
      rw [List.append_nil]
      exact ⟨before.doc.trans stays without_undirected, before.director.trans kept⟩
    · obtain ⟨deeds, reply, asked, passed, made, gone⟩ := ended
      have further := before.next distinct listed gone kept
      apply (ih (by simpa using listed) further).weaken
      rintro result u ⟨more, later, steps, sweep, made', heard', after⟩
      refine ⟨_, _, _, .next asked passed sweep, ?_, ?_, ?_⟩
      · rw [made', made, List.append_assoc]
      · rw [heard', heard]
        simp [Except.map]
      · simpa using after

end Loop

section Ends

variable {manager} {c : Conduct} {mints : Prop} {s t : Surroundings}
  {records swept left : List manager.Record} {deeds : List Exchange} {stage : Stage}
  {steps : List Step} {result : Except Failure Unit}

theorem Sweep.splits (sweep : manager.Sweep c stage records swept deeds steps result) :
    ∃ left, records = swept ++ left ∧ (result = .ok () ↔ left = []) := by
  induction sweep with
  | done => exact ⟨[], rfl, by simp⟩
  | next _ _ _ ih =>
    obtain ⟨left, rfl, ended⟩ := ih
    exact ⟨left, rfl, ended⟩
  | halted => exact ⟨_, rfl, by simp⟩

/-- A record that is current has another key than all that go. -/
theorem key_of_current {record : manager.Record} (distinct : manager.Distinct s.doc)
    (listed : manager.unused s.doc = swept ++ left) (recorded : record ∈ manager.all s.doc)
    (current : manager.isCurrent s.doc record = true) :
    manager.key record ∉ swept.map manager.key := by
  intro before
  obtain ⟨other, member, same⟩ := List.mem_map.mp before
  have unused : other ∈ manager.unused s.doc := listed ▸ List.mem_append_left _ member
  obtain ⟨recorded', uncurrent⟩ := List.mem_filter.mp unused
  obtain rfl := List.inj_on_of_nodup_map distinct.keys recorded' recorded same
  simp [current] at uncurrent

theorem SweptTo.ended (after : manager.SweptTo mints swept s t)
    (distinct : manager.Distinct s.doc) (listed : manager.unused s.doc = swept ++ left) :
    manager.Swept mints swept left s t := by
  have doc : t.doc = manager.without swept (s.doc.withDirector t.doc.directorId) := after.doc
  have records : manager.all t.doc =
      (manager.all s.doc).filter fun record => manager.key record ∉ swept.map manager.key := by
    rw [doc, all_without, all_withDirector]
  refine ⟨listed, ?_, ?_, ?_, ?_, ?_, ?_, after.director⟩
  · intro record member recorded
    rw [records, List.mem_filter, decide_eq_true_iff] at recorded
    exact recorded.2 (List.mem_map_of_mem member)
  · intro record member
    obtain ⟨before, behind, rfl⟩ := List.append_of_mem member
    rw [← List.append_assoc] at listed
    obtain ⟨recorded, -, waits⟩ := waiting distinct listed
    rw [records, List.mem_filter, decide_eq_true_iff]
    refine ⟨recorded, fun gone => waits ?_⟩
    rw [List.map_append]
    exact List.mem_append_left _ gone
  · intro record recorded current
    rw [records, List.mem_filter, decide_eq_true_iff]
    exact ⟨recorded, key_of_current distinct listed recorded current⟩
  · rw [records]
    exact List.filter_sublist
  · rintro rfl
    rw [records]
    apply List.filter_congr
    intro record recorded
    cases current : manager.isCurrent s.doc record with
    | true => exact decide_eq_true (key_of_current distinct listed recorded current)
    | false =>
      refine decide_eq_false (not_not.mpr (List.mem_map_of_mem ?_))
      rw [List.append_nil] at listed
      exact listed ▸ List.mem_filter.mpr ⟨recorded, by simp [current]⟩
  · rw [records]
    cases manager <;> exact doc

theorem SweptTo.start (stays : s.Stays t) (kept : s.KeepsDirector mints t) :
    manager.SweptTo mints [] s t := ⟨Eq.trans stays without_nil.symm, kept⟩

theorem deleteUnused_watched {w : Watched} (distinct : manager.Distinct w.now.doc) :
    (manager.deleteUnused stage).run.Meets (c.AnswersWatched mints) (fun _ _ _ _ => True)
      (manager.SweepEnds c mints stage w) w := by
  have found :=
    ((findUnused_meets.and findUnused_lost).and findUnused_asks.keepsDeeds).keepsDirector
      (c := c) (s := w.now) mints (findUnused_touches manager) (by simp)
  rw [deleteUnused_eq]
  apply Program.Meets.bind (Program.Only.watched findUnused_asks.ofRecords found)
  rintro (failure | unused) v ⟨⟨ended, kept⟩, heard⟩
  · obtain ⟨⟨stays, lost⟩, made⟩ := ended
    have after : manager.SweptTo mints [] w.now v.now := .start stays kept
    refine ⟨[], _, [], [], after.ended distinct rfl, by simp [made], by simp [heard], .inr ?_⟩
    exact ⟨⟨failure, rfl, lost⟩, rfl, rfl, rfl⟩
  · obtain ⟨⟨⟨rfl, stays⟩, -⟩, made⟩ := ended
    apply (sweepEach_watched distinct rfl (.start stays kept)).weaken
    rintro result u ⟨swept, deeds, steps, sweep, made', heard', after⟩
    obtain ⟨left, listed, completed⟩ := sweep.splits
    refine ⟨swept, left, deeds, steps, after.ended distinct listed, ?_, ?_, .inl ⟨sweep, completed⟩⟩
    · rw [made', made]
    · rw [heard', heard]

/-- No record is added. -/
theorem deleteUnused_fitting {fits : Properties → Prop} :
    (manager.deleteUnused stage).Heeds (Guard.fitting fits) := by
  cases manager with
  | disks => exact Disks.deleteUnused_heeds Guard.fitting_allowsDisks stage
  | stemcells => exact Guard.fitting_heeds (Stemcells.deleteUnused_touches stage) (by decide)
  | releases => exact Guard.fitting_heeds (Releases.deleteUnused_touches stage) (by decide)

/-- A sweep deletes the records that are not current, in stored order, and each is gone from the
document before the next deletion. It stops at the first that fails, for which the cloud may have
been asked; nothing of what is left, of what is current and of the rest of the document changes.
Nothing but a refusal of the cloud and the store, where that may fail, makes it stop. All this is
what the store says, over any store that gives back what is saved of the settings that there are. -/
theorem deleteUnused_sweeps {κ : Type} {pledge : Pledge κ} {store : Behaviour Effects κ} {k l : κ}
    {w v : Watched} (kept : pledge.Kept store) (minting : pledge.Minting mints store)
    (said : pledge.Says k w.now.doc) (stored : w.now.doc.SettingsFit pledge.Fits)
    (distinct : manager.Distinct w.now.doc)
    (ran : (manager.deleteUnused stage).run.Reaches (c.AnswersWatchedWith store) (w, k)
      (.done result) (v, l)) :
    manager.SweepEnds c mints stage w result v ∧ pledge.Says l v.now.doc := by
  obtain ⟨ran, said⟩ := kept.watched minting deleteUnused_fitting said stored ran
  exact ⟨(deleteUnused_watched distinct).ends ran, said⟩

end Ends

/-- Of each kind a current record between two others, with the disk and the stemcell of the first
one gone already. -/
def littered : Surroundings :=
  { Surroundings.empty with
    doc := { Document.fresh "director" with
      currentDiskId := "b"
      currentStemcellId := "e"
      currentReleaseIds := ["h"]
      disks := [⟨"a", "old", 1, []⟩, ⟨"b", "now", 1, []⟩, ⟨"c", "new", 1, []⟩]
      stemcells := [⟨"d", "light", "1", "old"⟩, ⟨"e", "light", "2", "now"⟩,
        ⟨"f", "light", "3", "new"⟩]
      releases := [⟨"g", "agent", "1"⟩, ⟨"h", "agent", "2"⟩, ⟨"i", "agent", "3"⟩] }
    cloud := fun
      | .vm => ∅
      | .disk | .stemcell => {"now", "new"} }

namespace Littered

section Replies

variable {κ : Type} {store : Behaviour Effects κ} {k l : κ} (w : Watched)

/-- As surroundings answer in which all but the store may fail. -/
abbrev answers (store : Behaviour Effects κ) : Behaviour Effects (Watched × κ) :=
  Conduct.reliableStore.AnswersWatchedWith store

theorem loads (given : store k .load (.ok w.now.doc) k) :
    answers store (w, k) .load (.ok w.now.doc) (w, k) := ⟨⟨given, rfl⟩, rfl⟩

theorem saves {doc : Document} (took : store k (.save doc) (.ok ()) l) :
    answers store (w, k) (.save doc) (.ok ()) (⟨w.now.saved doc, w.heard⟩, l) :=
  ⟨⟨took, rfl⟩, rfl⟩

theorem reports (event : StepEvent) : answers store (w, k) (.report (.step event)) ()
    (⟨w.now, w.heard ++ [event]⟩, k) := ⟨⟨rfl, rfl⟩, rfl⟩

theorem serves (call : CloudCall) (answer : call.Answer) (unused : w.now.Unused call answer) :
    answers store (w, k) (.cloud call) (.ok answer) (⟨w.now.served call answer, w.heard⟩, k) :=
  ⟨⟨⟨unused, rfl⟩, rfl⟩, rfl⟩

theorem refuses (call : CloudCall) (error : CloudError)
    (honest : ∀ kind cid, call.deleted = some (kind, cid) → call.absence = some error.kind →
      cid ∉ w.now.cloud kind) :
    answers store (w, k) (.cloud call) (.error error)
      (⟨w.now.noted ⟨.cloud call, .error error⟩, w.heard⟩, k) :=
  ⟨⟨⟨trivial, fun _ => honest, rfl⟩, rfl⟩, rfl⟩

end Replies

/-- With the document in a file, the first disk is gone already, and the cloud refuses to delete
the last one. -/
theorem disks {files : Files} (path : Path) (said : Says (files path) littered.doc) :
    ∃ failure v files', (Manager.disks.deleteUnused ⟨"cleaning"⟩).run.Reaches
      (answers (FileStore.ServesNamed path)) (⟨littered, []⟩, files) (.done (.error failure))
      (v, files') ∧
      v.now.doc.disks = [⟨"b", "now", 1, []⟩, ⟨"c", "new", 1, []⟩] ∧
      v.heard.map (·.state) = [.started, .skipped, .started, .failed] := by
  have given := FileStore.served_load said (by decide)
  obtain ⟨files', took⟩ := FileStore.served_save path (littered.doc.removeDisk "a") files
  refine ⟨_, _, _, .next (loads _ given) <| .next (loads _ given) <| .next (reports _ _) <|
    .next (refuses _ (.deleteDisk "old") ⟨"delete_disk", .diskNotFound, "no such disk"⟩ ?_) <|
    .next (loads _ given) <| .next (loads _ given) <| .next (saves _ took) <|
    .next (reports _ _) <| .next (reports _ _) <|
    .next (refuses _ (.deleteDisk "new") ⟨"delete_disk", .other, "in use"⟩ ?_) <|
    .next (reports _ _) <| .here _ _, rfl, rfl⟩
  · rintro _ _ ⟨⟩ -
    exact (by decide : "old" ∉ littered.cloud .disk)
  · rintro _ _ - ⟨⟩

section InMemory

theorem given (doc : Document) : MemoryStore.Serves (some doc) .load (.ok doc) (some doc) :=
  ⟨"", rfl⟩

theorem took (kept : Option Document) (doc : Document) :
    MemoryStore.Serves kept (.save doc) (.ok ()) (some doc) := ⟨"", rfl⟩

/-- The first stemcell is gone already, and the last one is deleted. -/
theorem stemcells : ∃ v kept, (Manager.stemcells.deleteUnused ⟨"cleaning"⟩).run.Reaches
    (answers MemoryStore.Serves) (⟨littered, []⟩, some littered.doc) (.done (.ok ())) (v, kept) ∧
      v.now.doc.stemcells = [⟨"e", "light", "2", "now"⟩] ∧ v.now.cloud .stemcell = {"now"} ∧
      v.heard.map (·.state) = [.started, .skipped, .started, .finished] := by
  refine ⟨_, _, .next (loads _ (given _)) <| .next (loads _ (given _)) <| .next (reports _ _) <|
    .next (refuses _ (.deleteStemcell "old")
      ⟨"delete_stemcell", .stemcellNotFound, "no such image"⟩ ?_) <|
    .next (loads _ (given _)) <| .next (saves _ (took _ _)) <| .next (reports _ _) <|
    .next (reports _ _) <| .next (serves _ (.deleteStemcell "new") () nofun) <|
    .next (loads _ (given _)) <| .next (saves _ (took _ _)) <| .next (reports _ _) <|
    .here _ _, rfl, ?_, rfl⟩
  · rintro _ _ ⟨⟩ -
    exact (by decide : "old" ∉ littered.cloud .stemcell)
  · exact (by decide : (littered.cloud .stemcell).erase "new" = {"now"})

/-- A release has nothing in the cloud. -/
theorem releases : ∃ v kept, (Manager.releases.deleteUnused ⟨"cleaning"⟩).run.Reaches
    (answers MemoryStore.Serves) (⟨littered, []⟩, some littered.doc) (.done (.ok ())) (v, kept) ∧
      v.now.doc.releases = [⟨"h", "agent", "2"⟩] ∧
      v.heard.map (·.state) = [.started, .finished, .started, .finished] :=
  ⟨_, _, .next (loads _ (given _)) <| .next (loads _ (given _)) <| .next (reports _ _) <|
    .next (loads _ (given _)) <| .next (saves _ (took _ _)) <| .next (reports _ _) <|
    .next (reports _ _) <| .next (loads _ (given _)) <| .next (saves _ (took _ _)) <|
    .next (reports _ _) <| .here _ _, rfl, rfl⟩

end InMemory

end Littered

/-- There a sweep of the disks over a file stops at the last one, and sweeps of the stemcells and of
the releases in memory leave the current ones. -/
theorem deleteUnused_sweeps_littered :
    let start : Watched := ⟨littered, []⟩
    let stage : Stage := ⟨"cleaning"⟩
    (∃ failure v files, (Manager.disks.deleteUnused stage).run.Reaches
        (Littered.answers (FileStore.ServesNamed ⟨["state"]⟩)) (start, .compact littered.doc)
        (.done (.error failure)) (v, files) ∧
      Manager.disks.SweepEnds .reliableStore True stage start (.error failure) v ∧
      v.now.doc.disks = [⟨"b", "now", 1, []⟩, ⟨"c", "new", 1, []⟩] ∧
      v.heard.map (·.state) = [.started, .skipped, .started, .failed]) ∧
    (∃ v kept, (Manager.stemcells.deleteUnused stage).run.Reaches
        (Littered.answers MemoryStore.Serves) (start, some littered.doc) (.done (.ok ()))
        (v, kept) ∧
      Manager.stemcells.SweepEnds .reliableStore False stage start (.ok ()) v ∧
      v.now.doc.stemcells = [⟨"e", "light", "2", "now"⟩] ∧ v.now.cloud .stemcell = {"now"} ∧
      v.heard.map (·.state) = [.started, .skipped, .started, .finished]) ∧
    ∃ v kept, (Manager.releases.deleteUnused stage).run.Reaches
        (Littered.answers MemoryStore.Serves) (start, some littered.doc) (.done (.ok ()))
        (v, kept) ∧
      Manager.releases.SweepEnds .reliableStore False stage start (.ok ()) v ∧
      v.now.doc.releases = [⟨"h", "agent", "2"⟩] ∧
      v.heard.map (·.state) = [.started, .finished, .started, .finished] := by
  have kept := MemoryStore.filled_kept
  have minting : MemoryStore.filled.Minting False _ := MemoryStore.filled_minting
  refine ⟨?_, ?_, ?_⟩
  · let path : Path := ⟨["state"]⟩
    have storable : littered.doc.SettingsFit Properties.Storable := by
      simp [Document.SettingsFit, littered, Properties.Storable.empty]
    have said : Says (Files.compact littered.doc path) littered.doc :=
      Document.says_compact storable
    have told : (FileStore.pledge path).Says (.compact littered.doc) littered.doc := .inr said
    obtain ⟨failure, v, files, ran, disks, heard⟩ := Littered.disks path said
    have distinct : Manager.disks.Distinct littered.doc := ⟨by decide, by decide⟩
    obtain ⟨swept, -⟩ := deleteUnused_sweeps (w := ⟨littered, []⟩) (FileStore.pledge_kept path)
      (FileStore.pledge_minting path) told storable distinct ran
    exact ⟨failure, v, files, ran, swept, disks, heard⟩
  · obtain ⟨v, doc, ran, stemcells, there, heard⟩ := Littered.stemcells
    have distinct : Manager.stemcells.Distinct littered.doc :=
      (by decide : (littered.doc.stemcells.map (·.id)).Nodup)
    obtain ⟨swept, -⟩ := deleteUnused_sweeps kept minting rfl (fun _ _ => trivial) distinct ran
    exact ⟨v, doc, ran, swept, stemcells, there, heard⟩
  · obtain ⟨v, doc, ran, releases, heard⟩ := Littered.releases
    have distinct : Manager.releases.Distinct littered.doc :=
      (by decide : (littered.doc.releases.map (·.id)).Nodup)
    obtain ⟨swept, -⟩ := deleteUnused_sweeps kept minting rfl (fun _ _ => trivial) distinct ran
    exact ⟨v, doc, ran, swept, releases, heard⟩

end Manager

end Reconciler
