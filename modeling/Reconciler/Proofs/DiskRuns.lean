import Reconciler.Proofs.Deletions

/-!
Runs of what is done with disks, each as a change of the disks of a workspace. Whether a disk gets
lost, leaks or ends up in place is told from these changes.
-/
namespace Reconciler

open Engine Repository

variable {c : Conduct} {g : Guard} {s t : Surroundings}

/-- Nothing recorded has changed and nothing was deleted. -/
structure Shelf.Grown {ρ : Type} (d e : Shelf ρ) : Prop where
  records : e.records = d.records
  pointer : e.pointer = d.pointer
  there : d.there ⊆ e.there
  seen : d.seen ⊆ e.seen

theorem Shelf.Grown.ofEq {ρ : Type} {d e : Shelf ρ} (same : e = d) : d.Grown e := by
  subst same
  exact ⟨rfl, rfl, Finset.Subset.refl _, Finset.Subset.refl _⟩

/-- A disk was created in the cloud and recorded. -/
structure DiskMade (pool : DiskPool) (vmCid : String) (record : DiskRecord) (s t : Surroundings) :
    Prop where
  disks : t.disks = s.disks.add record
  attachments : t.attachments = s.attachments
  size : record.size = pool.size
  properties : record.cloudProperties = pool.propertiesOrEmpty
  named : record.id ≠ ""
  newId : record.id ∉ s.ids
  known : record.id ∈ t.ids
  unused : record.cid ∉ s.disks.seen
  called : ⟨.cloud (.createDisk pool.size pool.propertiesOrEmpty vmCid), .ok record.cid⟩ ∈ t.calls

/-- A disk may have been created in the cloud, but none was recorded. -/
structure DiskNotMade (c : Conduct) (vmCid : String) (s t : Surroundings) : Prop where
  grown : s.disks.Grown t.disks
  same : ¬c.StoreFails → t.disks = s.disks
  cause : ¬c.StoreFails → vmCid ∈ s.cloud .vm → c.Troubled

/-- What is found in the document depends on the disks alone. -/
theorem Surroundings.findDisk_congr {cid : String} (same : t.disks = s.disks) :
    t.doc.findDisk cid = s.doc.findDisk cid := by
  change t.disks.records.find? _ = s.disks.records.find? _
  rw [same]

namespace Disks

theorem save_meets {cid : String} {size : UInt64} {properties : Properties}
    (saving : ∀ m record, g m (.save (m.doc.addDisk record))) :
    Meets c g s (save cid size properties)
      (fun record t => record.cid = cid ∧ record.size = size ∧
        record.cloudProperties = properties ∧ record.id ≠ "" ∧ record.id ∉ s.ids ∧
        record.id ∈ t.ids ∧ t.disks = { s.disks with records := s.disks.records ++ [record] } ∧
        t.attachments = s.attachments ∧ s.calls <+: t.calls)
      fun e t => c.StoreFailure e ∧ Frame [] s t := by
  refine recordFresh_meets (fun id => (⟨id, cid, size, properties⟩ : DiskRecord))
    (fun id doc => doc.addDisk ⟨id, cid, size, properties⟩) (fun m id frame named newId known => ?_)
    fun e t lost frame => ⟨lost, frame⟩
  refine ⟨saving _ _, rfl, rfl, rfl, named, newId, known, ?_, ?_, ?_⟩
  · rw [← frame.disks]
    rfl
  · rw [Surroundings.saved_attachments, frame.attachments]
  · exact frame.calls.trans (List.prefix_append _ _)

/-- The call that makes a disk for a machine that is there. -/
theorem createDisk_meets {pool : DiskPool} {vmCid context : String}
    (creating : g s (.cloud (.createDisk pool.size pool.propertiesOrEmpty vmCid))) :
    Meets c g s (within context (cloud (.createDisk pool.size pool.propertiesOrEmpty vmCid)))
      (fun (cid : String) t => cid ∉ s.disks.seen ∧ t.ids = s.ids ∧
        t.disks = { s.disks with
          there := insert cid s.disks.there
          seen := insert cid s.disks.seen } ∧ t.attachments = s.attachments ∧
        ⟨.cloud (.createDisk pool.size pool.propertiesOrEmpty vmCid), .ok cid⟩ ∈ t.calls)
      fun _ => DiskNotMade c vmCid s := by
  apply Meets.inContext
  apply Meets.cloud (fun _ => creating)
  · intro (cid : String) unused
    refine ⟨unused .disk cid rfl, rfl, ?_, ?_, ?_⟩
    · simp [Surroundings.disks, Surroundings.served, Holdings.after, Holdings.everAfter,
        CloudCall.created]
    · exact (List.filterMap_append ..).trans (List.append_nil _)
    · simp [Surroundings.served]
  · intro error may
    exact ⟨.ofEq rfl, fun _ => rfl, fun _ present => .ofCall may fun lacks => lacks present⟩

theorem create_meets {pool : DiskPool} {vmCid : String}
    (creating : ∀ size properties, g s (.cloud (.createDisk size properties vmCid)))
    (saving : ∀ m record, g m (.save (m.doc.addDisk record))) :
    Meets c g s (create pool vmCid) (fun record t => DiskMade pool vmCid record s t)
      fun _ t => DiskNotMade c vmCid s t := by
  unfold create
  apply Meets.bind (createDisk_meets (creating _ _))
  intro cid t made
  obtain ⟨unused, ids, grown, unattached, called⟩ := made
  apply Meets.within
  apply (save_meets saving).weaken
  · intro record u saved
    obtain ⟨rfl, size, properties, named, newId, known, disks, attachments, calls⟩ := saved
    rw [ids] at newId
    refine ⟨?_, attachments.trans unattached, size, properties, named, newId, known, unused,
      calls.subset called⟩
    rw [disks, grown]
    rfl
  · intro e u lost
    have disks := lost.2.disks.trans grown
    have fails := lost.1.2
    refine ⟨⟨?_, ?_, ?_, ?_⟩, fun works => absurd fails works, fun works => absurd fails works⟩
    all_goals rw [disks]
    · exact Finset.subset_insert _ _
    · exact Finset.subset_insert _ _

theorem findCurrent_meets : Meets c g s findCurrent
    (fun found t => found = s.disks.current ∧ Frame [] s t)
    fun _ t => c.StoreFails ∧ Frame [] s t := by
  apply ask_meets (Frame.refl _ s)
  intro t frame
  change t.disks.current = s.disks.current
  rw [frame.disks]

/-- The records that are not the current one. -/
theorem findUnused_meets : Meets c g s findUnused
    (fun unused t => unused = s.disks.records.filter (fun r => s.disks.current.all (·.id != r.id)) ∧
      Frame [] s t)
    fun _ t => c.StoreFails ∧ Frame [] s t :=
  unused_meets Surroundings.disks (fun _ => rfl) (fun _ => rfl) fun _ frame => frame.disks

end Disks

/-- Pointing to a recorded disk is not refused. -/
theorem Document.pointToDisk_eq {doc : Document} {record : DiskRecord}
    (recorded : record ∈ doc.disks) :
    doc.pointToDisk record.id = .ok { doc with currentDiskId := record.id } := by
  have found : doc.disks.any (·.id == record.id) = true :=
    List.any_eq_true.mpr ⟨record, recorded, by simp⟩
  simp [pointToDisk, found]

/-- Pointing to a disk uses the first record that has its cid. -/
theorem PersistentDisk.makeCurrent_meets {disk : DiskRecord}
    (saving : ∀ m record, Frame [] s m → m.doc.findDisk disk.cid = some record →
      g m (.save { m.doc with currentDiskId := record.id })) :
    Meets c g s (makeCurrent disk)
      (fun _ t => ∃ record, s.doc.findDisk disk.cid = some record ∧
        t.disks = { s.disks with pointer := record.id } ∧ t.attachments = s.attachments)
      fun _ t => t.disks = s.disks ∧ t.attachments = s.attachments ∧
        (c.StoreFails ∨ s.doc.findDisk disk.cid = none) := by
  unfold makeCurrent
  refine Meets.seq (ask_meets (Frame.refl _ s) fun t frame => ?_) ?_ ?_
  · exact Surroundings.findDisk_congr frame.disks
  · exact fun _ t lost => ⟨lost.2.disks, lost.2.attachments, .inl lost.1⟩
  intro found t looked
  obtain ⟨same, before⟩ := looked
  cases found with
  | none => exact Meets.throw ⟨before.disks, before.attachments, .inr same.symm⟩
  | some record =>
    apply Meets.inContext
    apply accepted_meets
    · intro m frame
      have after := before.trans frame
      have found : m.doc.findDisk disk.cid = some record :=
        (Surroundings.findDisk_congr after.disks).trans same.symm
      have recorded : record ∈ m.doc.disks := List.mem_of_find?_eq_some found
      refine ⟨_, Document.pointToDisk_eq recorded, saving m record after found, record, same.symm,
        ?_, ?_⟩
      · rw [← after.disks]
        rfl
      · rw [Surroundings.saved_attachments, after.attachments]
    · intro e u lost frame
      exact ⟨(before.trans frame).disks, (before.trans frame).attachments, .inl lost.2⟩

namespace Vm

variable {vm : Vm} {disk : DiskRecord}

theorem attachDisk_meets (attaching : g s (.cloud (.attachDisk vm.cid disk.cid))) :
    Meets c g s (vm.attachDisk disk)
      (fun _ t => t.disks = s.disks ∧ t.attachments = s.attachments ++ [(disk.cid, vm.cid)] ∧
        t.calls = s.calls ++ [⟨.cloud (.attachDisk vm.cid disk.cid), .ok ()⟩,
          ⟨.agent (.mountDisk disk.cid), .ok ()⟩])
      fun _ t => t.disks = s.disks ∧
        (vm.cid ∈ s.cloud .vm → disk.cid ∈ s.cloud .disk → c.Troubled) := by
  unfold attachDisk
  refine Meets.bind (Q := fun answer t => t = s.served (.attachDisk vm.cid disk.cid) answer)
    (Meets.inContext (Meets.cloud (fun _ => attaching) (fun _ _ => rfl) fun error may => ?_)) ?_
  · refine ⟨rfl, fun vmThere diskThere => .ofCall may fun lacks => ?_⟩
    exact lacks.elim (absurd vmThere) (absurd diskThere)
  · rintro _ _ rfl
    refine Meets.inContext (Meets.agent (absurd trivial) (fun _ _ => ?_) fun failure may => ?_)
    · refine ⟨rfl, ?_, List.append_assoc ..⟩
      simp [Surroundings.attachments, Surroundings.noted, Surroundings.served, Exchange.attached]
    · exact ⟨rfl, fun _ _ => .ofMay may (by simp) (by simp)⟩

theorem detachDisk_meets (detaching : g s (.cloud (.detachDisk vm.cid disk.cid))) :
    Meets c g s (vm.detachDisk disk)
      (fun _ t => t.disks = s.disks ∧ t.attachments = s.attachments)
      fun _ t => t.disks = s.disks ∧
        (vm.cid ∈ s.cloud .vm → disk.cid ∈ s.cloud .disk → c.Troubled) := by
  refine Meets.inContext (Meets.cloud (fun _ => detaching) (fun answer _ => ?_) fun error may => ?_)
  · exact ⟨rfl, (List.filterMap_append ..).trans (List.append_nil _)⟩
  · refine ⟨rfl, fun vmThere diskThere => .ofCall may fun lacks => ?_⟩
    exact lacks.elim (absurd vmThere) (absurd diskThere)

end Vm

/-- What is left in the cloud after a deletion that may have found nothing to delete. -/
def Remains (there : Finset String) (cid : String) (left : Finset String) : Prop :=
  left = there ∨ left = there.erase cid

/-- A disk was deleted and forgotten. -/
structure DiskDeleted (c : Conduct) (cid : String) (s t : Surroundings) : Prop where
  disks : t.disks = { s.disks.forget cid with there := t.cloud .disk }
  attachments : t.attachments = s.attachments
  there : Remains (s.cloud .disk) cid (t.cloud .disk)
  gone : c.honest → t.cloud .disk = (s.cloud .disk).erase cid

/-- A disk may have been deleted, but it was not forgotten. -/
structure DiskNotDeleted (c : Conduct) (cid : String) (s t : Surroundings) : Prop where
  disks : t.disks = { s.disks with there := t.cloud .disk }
  there : Remains (s.cloud .disk) cid (t.cloud .disk)
  same : ¬c.StoreFails → t.disks = s.disks
  cause : ¬c.StoreFails → cid ∈ s.cloud .disk → c.Troubled

namespace Shrunk

variable {u : Surroundings} {cid : String}

/-- Looking at the document after a deletion in the cloud does not change the disks again. -/
theorem disks_later (shrunk : Shrunk .disk cid s t) (later : Frame [] t u) :
    u.disks = { s.disks with there := u.cloud .disk } := by
  have there : u.cloud .disk = t.cloud .disk := congrArg Shelf.there later.disks
  rw [there, later.disks, shrunk.disks]

theorem remains_later (shrunk : Shrunk .disk cid s t) (later : Frame [] t u) :
    Remains (s.cloud .disk) cid (u.cloud .disk) := by
  have there : u.cloud .disk = t.cloud .disk := congrArg Shelf.there later.disks
  rw [there]
  exact shrunk.there

/-- The record of a deleted disk stays when the store fails. -/
theorem diskNotDeleted (shrunk : Shrunk .disk cid s t) (later : Frame [] t u)
    (fails : c.StoreFails) : DiskNotDeleted c cid s u where
  disks := shrunk.disks_later later
  there := shrunk.remains_later later
  same works := absurd fails works
  cause works := absurd fails works

end Shrunk

/-- Forgetting a disk takes away the first record that has its cid. -/
theorem DiskRecord.deleteInStep_meets {disk : DiskRecord} {stage : Stage} {step : String}
    (deleting : g s (.cloud (.deleteDisk disk.cid)))
    (saving : ∀ m record, m.doc.disks = s.doc.disks → m.doc.currentDiskId = s.doc.currentDiskId →
      s.doc.findDisk disk.cid = some record → g m (.save (m.doc.removeDisk record.id))) :
    Meets c g s (disk.deleteInStep stage step) (fun _ t => DiskDeleted c disk.cid s t)
      fun _ t => DiskNotDeleted c disk.cid s t := by
  refine Meets.discard (Meets.deletion (removal_meets (CloudCall.deleteDisk_deletes _) deleting)
    (fun t shrunk erased => ?_) fun e t frame present => ?_)
  · refine Meets.bind (Q := fun found u => found = s.doc.findDisk disk.cid ∧ Frame [] t u)
      (Meets.within (read_meets (fun u frame => ⟨?_, frame⟩)
        fun e fails => ⟨fails.cloudKind, shrunk.diskNotDeleted (.refl _ t) fails.2⟩)) ?_
    · change u.disks.records.find? _ = s.disks.records.find? _
      rw [shrunk.disks_later frame]
    intro found u looked
    obtain ⟨same, frame⟩ := looked
    have gone {v : Surroundings} (later : Frame [] t v) (truly : c.honest) :
        v.cloud .disk = (s.cloud .disk).erase disk.cid :=
      (congrArg Shelf.there later.disks).trans (erased truly)
    have attachments {v : Surroundings} (later : Frame [] t v) : v.attachments = s.attachments := by
      rw [later.attachments, shrunk.attachments]
    cases found with
    | none =>
      have absent : s.disks.records.find? (Recorded.cloudId · == disk.cid) = none := same.symm
      refine Meets.pure ⟨?_, attachments frame, shrunk.remains_later frame, gone frame⟩
      rw [Shelf.forget_none absent]
      exact shrunk.disks_later frame
    | some record =>
      have found : s.disks.records.find? (Recorded.cloudId · == disk.cid) = some record := same.symm
      refine Meets.within (update_meets (fun m later => ?_) (fun m later => ?_)
        fun e v fails later => ⟨fails.cloudKind, shrunk.diskNotDeleted (frame.trans later) fails.2⟩)
      all_goals
        have after := frame.trans later
        have now := shrunk.disks_later after
      · exact saving m record (congrArg Shelf.records now) (congrArg Shelf.pointer now) found
      · have removed : (m.saved (m.doc.removeDisk record.id)).disks =
            m.disks.remove record.id := rfl
        have left := shrunk.remains_later after
        have erased := gone after
        refine ⟨?_, ?_, left, erased⟩
        · rw [Shelf.forget_some found, removed, now]
          rfl
        · rw [Surroundings.saved_attachments, attachments after]
  · refine ⟨?_, .inl (congrArg Shelf.there frame.disks), fun _ => frame.disks, fun _ => present⟩
    rw [← frame.disks]
    rfl

end Reconciler
