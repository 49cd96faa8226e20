import Reconciler.Proofs.DiskRuns
import Reconciler.Proofs.Operations

/-!
The data on the persistent disk. Whatever fails and whenever, the current disk of a workspace is one
that the cloud has. It is replaced only by a disk that the data was copied to before, and nothing is
detached or deleted while it is current.
-/
namespace Reconciler

open Engine

/-- In this run a disk was created, attached and mounted, and then the data was copied to it. -/
def Migrated (calls : List Exchange) (cid : String) : Prop :=
  ∃ size properties vm, List.Sublist
    [⟨.cloud (.createDisk size properties vm), .ok cid⟩, ⟨.cloud (.attachDisk vm cid), .ok ()⟩,
      ⟨.agent (.mountDisk cid), .ok ()⟩, ⟨.agent .migrateDisk, .ok ()⟩] calls

theorem Migrated.later {calls calls' : List Exchange} {cid : String} (migrated : Migrated calls cid)
    (more : calls <+: calls') : Migrated calls' cid := by
  obtain ⟨size, properties, vm, done⟩ := migrated
  exact ⟨size, properties, vm, done.trans more.sublist⟩

/-- Takes a disk from its machine or from the cloud. -/
def Request.TakesDisk (cid : String) : Request → Prop
  | .cloud (.deleteDisk other) | .cloud (.detachDisk _ other) => other = cid
  | _ => False

/-- A disk that is current is not taken away, and only one that holds the data comes after it. -/
structure Guard.KeepsData (s : Surroundings) (r : Request) : Prop where
  untaken : ∀ disk, s.doc.currentDisk = some disk → ¬r.TakesDisk disk.cid
  moved : ∀ disk doc, s.doc.currentDisk = some disk → r = .save doc →
    ∃ next, doc.currentDisk = some next ∧
      (next = disk ∨ Migrated s.calls next.cid ∧ next.cid ∈ s.cloud .disk)

/-- The workspace has a current disk, and the cloud has it too. -/
def Surroundings.HoldsData (s : Surroundings) : Prop :=
  ∃ disk, s.doc.currentDisk = some disk ∧ disk.cid ∈ s.cloud .disk

theorem Surroundings.HoldsData.step {s t : Surroundings} {r : Request} (holds : s.HoldsData)
    (guarded : ¬r.IsQuiet → Guard.KeepsData s r) (step : s.Step r t) : t.HoldsData := by
  obtain ⟨disk, current, there⟩ := holds
  cases step with
  | saved =>
    obtain ⟨next, now, same | ⟨-, there'⟩⟩ := (guarded id).moved disk _ current rfl
    · exact ⟨next, now, same ▸ there⟩
    · exact ⟨next, now, there'⟩
  | @served call answer _ =>
    refine ⟨disk, current, Holdings.mem_after there fun deletes => ?_⟩
    cases call with
    | deleteDisk cid =>
      cases deletes
      exact (guarded id).untaken disk current rfl
    | _ => cases deletes
  | _ => exact ⟨disk, current, there⟩

/-- The records of disks fit together, and the cloud has the current one. -/
structure Surroundings.Secure (disk : DiskRecord) (s : Surroundings) : Prop where
  regular : s.disks.Regular s.ids
  current : s.disks.current = some disk
  there : disk.cid ∈ s.disks.there

/-- Next to the current disk there is another one, recorded and in the cloud. -/
structure Surroundings.Spare (disk new : DiskRecord) (s : Surroundings) : Prop where
  secure : s.Secure disk
  recorded : new ∈ s.disks.records
  there : new.cid ∈ s.disks.there
  other : new.cid ≠ disk.cid

variable {s t : Surroundings} {disk new : DiskRecord} {vm : Vm} {stage : Stage} {pool : DiskPool}

theorem Surroundings.Spare.same (spare : s.Spare disk new) (regular : t.disks.Regular t.ids)
    (disks : t.disks = s.disks) : t.Spare disk new where
  secure := ⟨regular, disks ▸ spare.secure.current, disks ▸ spare.secure.there⟩
  recorded := disks ▸ spare.recorded
  there := disks ▸ spare.there
  other := spare.other

namespace Surroundings.Secure

theorem member (secure : s.Secure disk) : disk ∈ s.disks.records :=
  Shelf.current_mem secure.current

theorem holdsData (secure : s.Secure disk) : s.HoldsData := ⟨disk, secure.current, secure.there⟩

theorem grown (secure : s.Secure disk) (ids : s.ids ⊆ t.ids) (grown : s.disks.Grown t.disks) :
    t.Secure disk where
  regular :=
    { idsDistinct := grown.records ▸ secure.regular.idsDistinct
      named := grown.records ▸ secure.regular.named
      known := grown.records ▸ (secure.regular.mono ids).known
      cidsDistinct := grown.records ▸ secure.regular.cidsDistinct
      cidsSeen := fun r member => grown.seen (secure.regular.cidsSeen r (grown.records ▸ member))
      pointer := by
        rw [grown.records, grown.pointer]
        exact secure.regular.pointer }
  current := by
    rw [← secure.current, Shelf.current, Shelf.current, grown.records, grown.pointer]
  there := grown.there secure.there

theorem same (secure : s.Secure disk) (ids : s.ids ⊆ t.ids) (disks : t.disks = s.disks) :
    t.Secure disk := secure.grown ids (.ofEq disks)

/-- A new disk is another one, and leaves the current disk what it is. -/
theorem made {record : DiskRecord} {vmCid : String} (secure : s.Secure disk) (ids : s.ids ⊆ t.ids)
    (made : DiskMade pool vmCid record s t) : t.Spare disk record where
  secure := by
    refine ⟨?_, ?_, ?_⟩
    all_goals rw [made.disks]
    · exact secure.regular.add made.named made.newId made.unused ids made.known
    · exact Shelf.current_add secure.current record
    · exact Finset.mem_insert_of_mem secure.there
  recorded := by
    rw [made.disks]
    exact List.mem_append_right _ (List.mem_singleton.mpr rfl)
  there := by
    rw [made.disks]
    exact Finset.mem_insert_self _ _
  other same := made.unused (same ▸ secure.regular.cidsSeen disk secure.member)

/-- Pointing to a recorded disk that the cloud has. -/
theorem pointed {record : DiskRecord} (secure : s.Secure disk) (ids : s.ids ⊆ t.ids)
    (member : record ∈ s.disks.records) (there : record.cid ∈ s.disks.there)
    (disks : t.disks = { s.disks with pointer := record.id }) : t.Secure record where
  regular := by
    rw [disks]
    exact (secure.regular.pointTo member).mono ids
  current := by
    rw [disks]
    exact secure.regular.current_pointTo member
  there := by rwa [disks]

theorem remains {cid : String} {left : Finset String} (there : disk.cid ∈ s.disks.there)
    (other : cid ≠ disk.cid) (remains : Remains (s.cloud .disk) cid left) : disk.cid ∈ left := by
  obtain rfl | rfl := remains
  · exact there
  · exact Finset.mem_erase.mpr ⟨other.symm, there⟩

/-- Another disk may go. -/
theorem deleted {c : Conduct} {cid : String} (secure : s.Secure disk) (ids : s.ids ⊆ t.ids)
    (other : cid ≠ disk.cid) (deleted : DiskDeleted c cid s t) : t.Secure disk where
  regular := by
    rw [deleted.disks]
    exact ((secure.regular.forget cid).mono ids).withThere _
  current := by
    rw [deleted.disks]
    exact secure.regular.current_forget secure.current other
  there := remains secure.there other deleted.there

theorem notDeleted {c : Conduct} {cid : String} (secure : s.Secure disk) (ids : s.ids ⊆ t.ids)
    (other : cid ≠ disk.cid) (kept : DiskNotDeleted c cid s t) : t.Secure disk where
  regular := by
    rw [kept.disks]
    exact (secure.regular.mono ids).withThere _
  current := by
    rw [kept.disks]
    exact secure.current
  there := remains secure.there other kept.there

end Surroundings.Secure

/-- What leaves the disks alone cannot harm the data. -/
theorem Guard.KeepsData.ofSpares {r : Request} (spared : Part.disks.Spares s r) :
    Guard.KeepsData s r where
  untaken disk _ taken := by
    cases r with
    | cloud call =>
      cases call with
      | deleteDisk | detachDisk => exact spared rfl
      | _ => exact taken
    | _ => exact taken
  moved disk doc current same := by
    subst same
    refine ⟨disk, ?_, .inl rfl⟩
    rw [← current, Document.currentDisk, Document.currentDisk, spared.1, spared.2]

theorem Engine.Touches.secure {α : Type} {x : Engine α} {parts : List Part}
    (touches : x.Touches parts) (secure : s.Secure disk) (other : .disks ∉ parts) :
    Meets .any Guard.KeepsData s x (fun _ t => t.Secure disk) fun _ t => t.Secure disk :=
  ((touches.heeds other fun _ _ => Guard.KeepsData.ofSpares).under touches.tracks).weaken
    (fun _ _ frame => secure.same frame.ids (frame.disks_of other))
    fun _ _ frame => secure.same frame.ids (frame.disks_of other)

namespace Guard.KeepsData

theorem createDisk (size : UInt64) (properties : Properties) (vmCid : String) :
    KeepsData s (.cloud (.createDisk size properties vmCid)) := ⟨fun _ _ h => h, nofun⟩

theorem attachDisk (vmCid cid : String) : KeepsData s (.cloud (.attachDisk vmCid cid)) :=
  ⟨fun _ _ h => h, nofun⟩

theorem addDisk (record : DiskRecord) : KeepsData s (.save (s.doc.addDisk record)) where
  untaken _ _ h := h
  moved disk doc current same := by
    cases same
    exact ⟨disk, Shelf.current_add (d := s.disks) current record, .inl rfl⟩

theorem taken {r : Request} {cid : String} (current : s.disks.current = some disk)
    (other : cid ≠ disk.cid) (takes : ∀ d, r.TakesDisk d → cid = d)
    (unsaved : ∀ doc, r ≠ .save doc) : KeepsData s r where
  untaken d now taken := by
    cases current.symm.trans now
    exact other (takes disk.cid taken)
  moved _ doc _ same := absurd same (unsaved doc)

theorem pointTo {d : DiskRecord} {ids : Finset String} (regular : s.disks.Regular ids)
    (member : d ∈ s.disks.records) (there : d.cid ∈ s.disks.there)
    (migrated : Migrated s.calls d.cid) :
    KeepsData s (.save { s.doc with currentDiskId := d.id }) where
  untaken _ _ h := h
  moved _ doc _ same := by
    cases same
    exact ⟨d, regular.current_pointTo member, .inr ⟨migrated, there⟩⟩

theorem removeDisk {record : DiskRecord} (current : s.disks.current = some disk)
    (other : record.id ≠ disk.id) : KeepsData s (.save (s.doc.removeDisk record.id)) where
  untaken _ _ h := h
  moved d doc now same := by
    cases same
    cases current.symm.trans now
    exact ⟨disk, Shelf.current_remove (d := s.disks) current other, .inl rfl⟩

end Guard.KeepsData

open Surroundings

/-- Deleting another disk than the current one. -/
theorem DiskRecord.deleteInStep_secure {other : DiskRecord} {step : String}
    (secure : s.Secure disk) (different : other.cid ≠ disk.cid) :
    Meets .any Guard.KeepsData s (other.deleteInStep stage step) (fun _ t => t.Secure disk)
      fun _ t => t.Secure disk := by
  have spared := (other.deleteInStep_touches stage step).framed (c := .any)
    (deleteInStep_meets (s := s) (g := Guard.KeepsData) ?_ ?_)
  · refine spared.weaken (fun _ t deleted => ?_) fun _ t kept => ?_
    · exact secure.deleted deleted.2.ids different deleted.1
    · exact secure.notDeleted kept.2.ids different kept.1
  · exact .taken secure.current different (fun _ h => h) nofun
  · intro m record records pointer found
    have member : record ∈ s.disks.records := List.mem_of_find?_eq_some found
    have named : record.cid = other.cid := by simpa using List.find?_some found
    have current : m.disks.current = some disk := by
      rw [← secure.current, Shelf.current, Shelf.current, show m.disks.records = _ from records,
        show m.disks.pointer = _ from pointer]
      rfl
    refine .removeDisk current fun same => different ?_
    rw [← named, List.inj_on_of_nodup_map secure.regular.idsDistinct member secure.member same]

theorem Vm.detachDisk_secure {other : DiskRecord} (secure : s.Secure disk)
    (different : other.cid ≠ disk.cid) :
    Meets .any Guard.KeepsData s (vm.detachDisk other) (fun _ t => t.Secure disk)
      fun _ t => t.Secure disk := by
  have detached := (vm.detachDisk_touches other).framed (vm.detachDisk_meets (c := .any)
    (Guard.KeepsData.taken secure.current different (fun _ h => h) nofun))
  exact detached.weaken (fun _ t h => secure.same h.2.ids h.1.1)
    fun _ t h => secure.same h.2.ids h.1.1

namespace PersistentDisk

theorem create_secure (secure : s.Secure disk) :
    Meets .any Guard.KeepsData s (create vm stage pool)
      (fun new t => t.Spare disk new ∧ ⟨.cloud (.createDisk pool.size pool.propertiesOrEmpty
        vm.cid), .ok new.cid⟩ ∈ t.calls)
      fun _ t => t.Secure disk := by
  have created := (create_touches vm stage pool).framed (Meets.runStep (Disks.create_meets
    (c := .any) (s := s) (fun _ _ => Guard.KeepsData.createDisk ..)
    fun _ _ => Guard.KeepsData.addDisk _))
  apply created.weaken
  · intro new t h
    exact ⟨secure.made h.2.ids h.1, h.1.called⟩
  · intro _ t h
    exact secure.grown h.2.ids h.1.grown

/-- Any disk can be attached. -/
theorem attach_secure (secure : s.Secure disk) (other : DiskRecord) :
    Meets .any Guard.KeepsData s (attach vm stage other)
      (fun _ t => t.Secure disk ∧ t.disks = s.disks ∧
        t.calls = s.calls ++ [⟨.cloud (.attachDisk vm.cid other.cid), .ok ()⟩,
          ⟨.agent (.mountDisk other.cid), .ok ()⟩])
      fun _ t => t.Secure disk := by
  have attached := (attach_touches vm stage other).framed (Meets.runStep (vm.attachDisk_meets
    (c := .any) (s := s) (Guard.KeepsData.attachDisk ..)))
  apply attached.weaken
  · intro _ t h
    obtain ⟨⟨disks, -, calls⟩, frame⟩ := h
    exact ⟨secure.same frame.ids disks, disks, calls⟩
  · intro _ t h
    exact secure.same h.2.ids h.1.1

/-- The pointer moves to the disk that holds the data: no other record has its cid. -/
theorem makeCurrent_secure (spare : s.Spare disk new) (migrated : Migrated s.calls new.cid) :
    Meets .any Guard.KeepsData s (makeCurrent new) (fun _ t => t.Secure new)
      fun _ t => t.Secure disk := by
  have regular := spare.secure.regular
  have isNew {record : DiskRecord} (found : s.doc.findDisk new.cid = some record) :
      record = new := Option.some.inj (found.symm.trans (regular.find_cid spare.recorded))
  have saving (m : Surroundings) (record : DiskRecord) (frame : Frame [] s m)
      (found : m.doc.findDisk new.cid = some record) :
      Guard.KeepsData m (.save { m.doc with currentDiskId := record.id }) := by
    have same := frame.disks
    cases isNew ((Surroundings.findDisk_congr same).symm.trans found)
    have recorded : new ∈ m.disks.records := same ▸ spare.recorded
    have there : new.cid ∈ m.disks.there := same ▸ spare.there
    exact .pointTo (same ▸ regular) recorded there (migrated.later frame.calls)
  have moving := (makeCurrent_touches new).framed (makeCurrent_meets (c := .any) saving)
  apply moving.weaken
  · intro _ t moved
    obtain ⟨⟨record, found, disks, -⟩, frame⟩ := moved
    cases isNew found
    exact spare.secure.pointed frame.ids spare.recorded spare.there disks
  · intro _ t failed
    exact spare.secure.same failed.2.ids failed.1.1

/-- An attempt to migrate keeps the old disk current until a new one holds the data. -/
theorem migrate_secure (secure : s.Secure disk) :
    Meets .any Guard.KeepsData s (migrate vm stage disk pool)
      (fun new t => t.Secure new) fun _ t => ∃ d, t.Secure d := by
  unfold migrate
  apply Meets.seq (create_secure secure) (fun _ _ h => ⟨disk, h⟩)
  intro new t₁ created
  obtain ⟨spare₁, called₁⟩ := created
  apply Meets.seq (attach_secure spare₁.secure new) (fun _ _ h => ⟨disk, h⟩)
  intro _ t₂ attached
  obtain ⟨secure₂, disks₂, calls₂⟩ := attached
  have spare₂ := spare₁.same secure₂.regular disks₂
  refine Meets.bind (Q := fun _ t => t = t₂.noted ⟨.agent .migrateDisk, .ok ()⟩)
    (Meets.runStep (Meets.agent (fun _ => ⟨fun _ _ => id, nofun⟩) (fun _ _ => rfl)
      fun _ _ => ?_)) ?_
  · exact ⟨disk, secure₂.same (Finset.Subset.refl _) rfl⟩
  rintro _ _ rfl
  let t₃ := t₂.noted ⟨.agent .migrateDisk, .ok ()⟩
  have migrated : Migrated t₃.calls new.cid := by
    refine ⟨pool.size, pool.propertiesOrEmpty, vm.cid, ?_⟩
    change List.Sublist _ (t₂.calls ++ _)
    rw [calls₂, List.append_assoc]
    exact (List.singleton_sublist.mpr called₁).append (List.Sublist.refl _)
  have spare₃ : t₃.Spare disk new := spare₂.same secure₂.regular rfl
  apply Meets.seq (makeCurrent_secure spare₃ migrated) (fun _ _ h => ⟨disk, h⟩)
  intro _ t₄ secure₄
  -- from here on the new disk is the current one, and a failure leaves that as it is
  have other := spare₁.other.symm
  apply Meets.seq (Meets.runStep (Vm.detachDisk_secure secure₄ other)) (fun _ _ h => ⟨new, h⟩)
  intro _ t₅ secure₅
  apply Meets.seq (DiskRecord.deleteInStep_secure secure₅ other) (fun _ _ h => ⟨new, h⟩)
  intro _ t₆ secure₆
  exact Meets.pure secure₆

end PersistentDisk

/-- The workspace has a current disk, the records of disks fit together, and the cloud has it. -/
def Surroundings.IsSecure (s : Surroundings) : Prop := ∃ disk, s.Secure disk

theorem Disks.deleteUnused_secure (secure : s.Secure disk) :
    Meets .any Guard.KeepsData s (deleteUnused stage) (fun _ t => t.Secure disk)
      fun _ t => t.Secure disk := by
  unfold deleteUnused
  apply Meets.seq (Meets.inContext findUnused_meets)
  · exact fun _ t lost => secure.same lost.2.ids lost.2.disks
  intro unused t looked
  obtain ⟨rfl, frame⟩ := looked
  apply Meets.forEachKept (secure.same frame.ids frame.disks)
  intro other unused u secure'
  apply DiskRecord.deleteInStep_secure secure'
  obtain ⟨member, notCurrent⟩ := List.mem_filter.mp unused
  rw [secure.current] at notCurrent
  apply secure.regular.cids_ne member secure.member
  intro same
  simp [show other.id = disk.id from same] at notCurrent

/-- A migration that may be needed. -/
theorem PersistentDisk.keepOrMigrate_secure (secure : s.Secure disk) :
    Meets .any Guard.KeepsData s (keepOrMigrate vm stage disk pool) (fun _ => IsSecure)
      fun _ => IsSecure := by
  unfold keepOrMigrate
  apply Meets.seq (attach_secure secure disk) (fun _ _ h => ⟨disk, h⟩)
  intro _ t attached
  split
  · exact (migrate_secure attached.1).weaken (fun new _ h => ⟨new, h⟩) fun _ _ h => h
  · exact Meets.pure ⟨disk, attached.1⟩

/-- With a current disk none is created but to take its place. -/
theorem PersistentDisk.converge_secure (secure : s.IsSecure) :
    Meets .any Guard.KeepsData s (converge vm stage pool) (fun _ => IsSecure)
      fun _ => IsSecure := by
  obtain ⟨disk, secure⟩ := secure
  unfold converge
  split
  · exact Meets.pure ⟨disk, secure⟩
  apply Meets.seq (Meets.inContext Disks.findCurrent_meets)
  · exact fun _ t lost => ⟨disk, secure.same lost.2.ids lost.2.disks⟩
  intro _ t looked
  obtain ⟨rfl, frame⟩ := looked
  have before := secure.same frame.ids frame.disks
  rw [secure.current]
  apply Meets.bind (keepOrMigrate_secure before)
  intro kept u settled
  obtain ⟨now, secure'⟩ := settled
  apply Meets.seq (Disks.deleteUnused_secure secure') (fun _ _ h => ⟨now, h⟩)
  exact fun _ _ h => Meets.pure ⟨now, h⟩

/-- Runs that leave every disk record in place and the data safe. -/
abbrev KeepsSecure {α : Type} (x : Engine α) : Prop :=
  Keeps .any Guard.KeepsData Surroundings.IsSecure x

theorem Engine.Touches.keepsSecure {α : Type} {x : Engine α} {parts : List Part}
    (touches : x.Touches parts) (other : .disks ∉ parts) : KeepsSecure x := by
  intro s holds
  obtain ⟨disk, secure⟩ := holds
  exact (touches.secure secure other).weaken (fun _ _ h => ⟨disk, h⟩) fun _ _ h => ⟨disk, h⟩

theorem Engine.Quiet.keepsSecure {α : Type} {x : Engine α} (quiet : x.Quiet) : KeepsSecure x :=
  (show Touches [] x from Heeds.ofQuiet quiet).keepsSecure List.not_mem_nil

theorem Disks.deleteUnused_keepsSecure (stage : Stage) : KeepsSecure (deleteUnused stage) := by
  intro s holds
  obtain ⟨disk, secure⟩ := holds
  exact (deleteUnused_secure secure).weaken (fun _ _ h => ⟨disk, h⟩) fun _ _ h => ⟨disk, h⟩

theorem Instance.updateDisks_keepsSecure (manifest : Manifest) (stage : Stage) (i : Instance) :
    KeepsSecure ((updateDisks manifest stage).toEngine i) := by
  simp only [updateDisks, enter, Stateful.toEngine_bind, Stateful.toEngine_get, pure_bind,
    Stateful.toEngine_engine, bind_assoc, Stateful.toEngine_modify, Stateful.toEngine_pure]
  apply Keeps.bind (Keeps.within (Keeps.valid _))
  intro pool
  refine Keeps.bind (Keeps.within (Keeps.within fun s secure => ?_)) fun _ => Keeps.pure _
  exact PersistentDisk.converge_secure secure

theorem Instances.create_keepsSecure (settings : Settings) (jobName : String) (index : UInt32)
    (manifest : Manifest) (stemcell : StemcellRecord) (registry : RegistryConfig)
    (tunnel : SshTunnelConfig) (stage : Stage) :
    KeepsSecure (create settings jobName index manifest stemcell registry tunnel stage) := by
  refine Keeps.bind (Keeps.step (Keeps.bind (Keeps.within ?_) fun vm => ?_)) fun vm => ?_
  · exact (Vms.create_touches stemcell manifest).keepsSecure (by decide)
  · have promoted := stemcell.promote_touches.keepsSecure (by decide)
    exact Keeps.bind (Keeps.within promoted) fun _ => Keeps.pure vm
  · apply Keeps.bind (Keeps.within (Instance.awaitReady_quiet _ _ _ _).keepsSecure)
    intro r
    refine Keeps.bind (Keeps.within ?_) fun _ => Keeps.pure _
    exact Instance.updateDisks_keepsSecure manifest stage r.2

namespace Deployment

theorem deploy_keepsSecure (settings : Settings) (manifest : Manifest)
    (extracted : ExtractedStemcell) (registry : RegistryConfig) (tunnel : SshTunnelConfig) :
    KeepsSecure (deploy settings manifest extracted registry tunnel) := by
  apply deploy_keeps
  case upload => exact fun _ => (Stemcells.upload_touches _ _).keepsSecure (by decide)
  case deleteAll => exact fun _ => (Instances.deleteAll_touches _ _ _ _ _).keepsSecure (by decide)
  case create => exact fun _ _ _ => Instances.create_keepsSecure _ _ _ _ _ _ _ _
  case updateJobs => exact fun _ _ => (Instance.updateJobs_quiet _ _ _).keepsSecure
  case record => exact (Releases.record_touches _).keepsSecure (by decide)
  case stemcells => exact fun _ => (Stemcells.deleteUnused_touches _).keepsSecure (by decide)
  case releases => exact fun _ => (Releases.deleteUnused_touches _).keepsSecure (by decide)

theorem cleanUp_keepsSecure (stage : Stage) : KeepsSecure (cleanUp stage) := by
  have stemcells := (Stemcells.deleteUnused_touches stage).keepsSecure (by decide)
  have releases := (Releases.deleteUnused_touches stage).keepsSecure (by decide)
  apply Keeps.bind (Keeps.within (Disks.deleteUnused_keepsSecure stage))
  intro _
  exact Keeps.bind (Keeps.within stemcells) fun _ => Keeps.within releases

end Deployment

theorem Operation.keepsSecure {operation : Operation} (admitted : operation.KeepsDeployment) :
    KeepsSecure operation.program := by
  cases operation with
  | deploy => exact Deployment.deploy_keepsSecure _ _ _ _ _
  | cleanUp => exact Deployment.cleanUp_keepsSecure _
  | delete => exact admitted.elim

theorem History.isSecure {start s : Surroundings}
    (history : History .any Operation.KeepsDeployment start s) (secure : start.IsSecure) :
    s.IsSecure := by
  apply history.invariant secure
  intro operation s admitted secure
  obtain ⟨disk, secure⟩ := secure
  have begun : s.begin.IsSecure := ⟨disk, secure.same (Finset.Subset.refl _) rfl⟩
  exact (Operation.keepsSecure admitted s.begin begun).unguarded

/-- The calls since an earlier moment of a run. -/
def Surroundings.since (v t : Surroundings) : List Exchange := t.calls.drop v.calls.length

theorem Surroundings.since_later {s t u : Surroundings} (calls : s.calls <+: t.calls) :
    t.since u ⊆ s.since u := List.drop_subset_drop_left _ calls.length_le

/-- The current disk only changes when a document is saved that has another one. -/
theorem Program.Reaches.currentDisk {α : Type} {c : Conduct} {p left : Program Effects α}
    (reached : p.Reaches c.Answers s left t) :
    t.doc.currentDisk = s.doc.currentDisk ∨
      ∃ doc, ⟨.save doc, .ok ()⟩ ∈ s.since t ∧ doc.currentDisk = t.doc.currentDisk := by
  induction reached with
  | here => exact .inl rfl
  | @next r rest reply left s t u answered later ih =>
    have step := answered.step
    have inherited (same : t.doc.currentDisk = s.doc.currentDisk) :
        u.doc.currentDisk = s.doc.currentDisk ∨
          ∃ doc, ⟨.save doc, .ok ()⟩ ∈ s.since u ∧ doc.currentDisk = u.doc.currentDisk := by
      obtain kept | ⟨doc, saved, now⟩ := ih
      · exact .inl (kept.trans same)
      · exact .inr ⟨doc, Surroundings.since_later step.calls saved, now⟩
    cases step with
    | @saved doc =>
      -- the last save of the run counts: this one only if none after it moves the pointer
      obtain kept | ⟨doc', saved, now⟩ := ih
      · refine .inr ⟨doc, ?_, kept.symm⟩
        obtain ⟨more, calls⟩ := later.calls
        rw [Surroundings.since, ← calls]
        simp [Surroundings.saved]
      · exact .inr ⟨doc', Surroundings.since_later (List.prefix_append _ _) saved, now⟩
    | _ => exact inherited rfl

/-- Taking a disk is a deed, and any cloud may at least refuse it. -/
theorem Program.Meets.keepsData {α : Type} {r : Request} {rest : r.Reply → Program Effects α}
    {post : α → Surroundings → Prop} {cid : String} (takes : r.TakesDisk cid)
    (valid : Program.Meets (S := Effects) Conduct.any.Answers (Guard.safe Guard.KeepsData) post
      (.ask r rest) s) : Guard.KeepsData s r := by
  cases r with
  | cloud call =>
    have fails : Conduct.any.Answers s (.cloud call) (.error ⟨"", .other, ""⟩) _ :=
      ⟨trivial, nofun, rfl⟩
    apply (valid _ _ fails).1
    cases call with
    | deleteDisk | detachDisk => exact id
    | _ => exact takes.elim
  | _ => exact takes.elim

/-- A disk that becomes current holds the data already. -/
theorem Guard.KeepsData.migrated {r : Request} {old new : DiskRecord}
    (guarded : ¬r.IsQuiet → KeepsData s r) (step : s.Step r t)
    (before : s.doc.currentDisk = some old) (after : t.doc.currentDisk = some new)
    (moved : new ≠ old) : Migrated s.calls new.cid := by
  cases step with
  | saved =>
    obtain ⟨next, now, same | ⟨migrated, -⟩⟩ := (guarded id).moved old _ before rfl
    · exact absurd (Option.some.inj (after.symm.trans now) |>.trans same) moved
    · cases after.symm.trans now
      exact migrated
  | _ => exact absurd (Option.some.inj (after.symm.trans before)) moved

/-- At any moment of any run, whatever has failed before in this run and in those before it: the
workspace has a current disk and the cloud has it; a disk that is detached or deleted is not the
current one, and if it was the current one earlier in the run, the document that points to another
one has been saved since; and another disk becomes current only when the data was copied to it. -/
theorem persistentDisk_safe {start s v : Surroundings} {operation : Operation}
    {middle left : Program Effects (Except Failure Unit)}
    (regular : start.disks.Regular start.ids) (holds : start.HoldsData)
    (history : History .any Operation.KeepsDeployment start s)
    (admitted : operation.KeepsDeployment) (earlier : operation.Comes .any s middle v)
    (moment : middle.Reaches Conduct.any.Answers v left t) :
    t.HoldsData ∧ ∀ r rest, left = .ask r rest →
      (∀ cid, r.TakesDisk cid →
        (∀ now, t.doc.currentDisk = some now → now.cid ≠ cid) ∧
        ∀ old, v.doc.currentDisk = some old → old.cid = cid →
          ∃ doc, ⟨.save doc, .ok ()⟩ ∈ v.since t ∧ doc.currentDisk = t.doc.currentDisk) ∧
      ∀ reply u, Conduct.any.Answers t r reply u →
        ∀ old new, t.doc.currentDisk = some old → u.doc.currentDisk = some new → new ≠ old →
          Migrated t.calls new.cid := by
  obtain ⟨disk, current, there⟩ := holds
  have secure : s.IsSecure := history.isSecure ⟨disk, regular, current, there⟩
  obtain ⟨disk, secure⟩ := secure
  have begun : s.begin.Secure disk := secure.same (Finset.Subset.refl _) rfl
  have valid := Operation.keepsSecure admitted s.begin ⟨disk, begun⟩
  have holds : t.HoldsData := by
    apply Program.Meets.always HoldsData valid (earlier.trans moment) begun.holdsData
    exact fun s r reply t answered safe holds => holds.step safe answered.step
  refine ⟨holds, ?_⟩
  intro r rest asks
  subst asks
  have next := Program.Meets.reach valid (earlier.trans moment)
  constructor
  · intro cid takes
    have guarded : Guard.KeepsData t r := Program.Meets.keepsData takes next
    have untaken : ∀ now, t.doc.currentDisk = some now → now.cid ≠ cid := by
      intro now current same
      subst same
      exact guarded.untaken now current takes
    refine ⟨untaken, fun old before same => ?_⟩
    obtain kept | saved := Program.Reaches.currentDisk moment
    · exact absurd same (untaken old (kept.trans before))
    · exact saved
  · intro reply u answered old new before after moved
    have guarded := (next reply u answered).1
    exact Guard.KeepsData.migrated guarded answered.step before after moved

/-- What a migration leaves that failed before the new disk became current. -/
def Surroundings.unfinished : Surroundings where
  doc := { Document.fresh "director" with
    currentDiskId := "1"
    disks := [⟨"1", "old", 1024, []⟩, ⟨"2", "new", 2048, []⟩] }
  cloud := fun _ => {"old", "new"}
  seen := fun _ => {"", "old", "new"}
  ids := {"1", "2"}
  calls := []

/-- Cleaning up after that deletes the new disk, while the old one is current. -/
theorem persistentDisk_safe_unfinished : ∃ rest,
    (Operation.cleanUp ⟨"cleanup"⟩).Comes .any .unfinished
      (.ask (.cloud (.deleteDisk "new")) rest) .unfinished ∧
    Surroundings.unfinished.HoldsData ∧
    ∀ now, Surroundings.unfinished.doc.currentDisk = some now → now.cid ≠ "new" := by
  have regular : Surroundings.unfinished.disks.Regular Surroundings.unfinished.ids := by
    refine ⟨by decide, ?_, ?_, by decide, ?_, .inr ⟨⟨"1", "old", 1024, []⟩, ?_, rfl⟩⟩
    all_goals simp [Surroundings.disks, Surroundings.unfinished, Recorded.recordId,
      Recorded.cloudId]
  have holds : Surroundings.unfinished.HoldsData :=
    ⟨⟨"1", "old", 1024, []⟩, rfl, by simp [Surroundings.unfinished]⟩
  have loads : Conduct.any.Answers .unfinished .load (.ok Surroundings.unfinished.doc)
      .unfinished := ⟨"director", fun _ => rfl, rfl, rfl⟩
  have tells (notice : Notice) :
      Conduct.any.Answers .unfinished (.report notice) () .unfinished := rfl
  have moment : ∃ rest, (Operation.cleanUp ⟨"cleanup"⟩).Comes .any .unfinished
      (.ask (.cloud (.deleteDisk "new")) rest) .unfinished :=
    ⟨_, .next loads (.next loads (.next (tells _) (.here _ _)))⟩
  obtain ⟨rest, moment⟩ := moment
  have safe := persistentDisk_safe regular holds (.start _)
    (show (Operation.cleanUp ⟨"cleanup"⟩).KeepsDeployment from trivial) (.here _ _) moment
  exact ⟨rest, moment, safe.1, ((safe.2 _ _ rfl).1 "new" rfl).1⟩

end Reconciler
