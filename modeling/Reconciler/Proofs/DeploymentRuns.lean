import Reconciler.Proofs.InstanceRuns

/-!
Runs of the operations on a whole workspace. Each of them finds the books in order and leaves them
in order, wherever it stops; a deployment that does not stop leaves what its manifest asks for.
-/
namespace Reconciler

open Engine Surroundings

variable {c : Conduct} {s t : Surroundings} {stage : Stage} {manifest : Manifest}

theorem Manifest.jobName_of_singleJob {job : Job} (single : manifest.singleJob = .ok job) :
    manifest.jobName = job.name := by
  unfold singleJob at single
  split at single
  · next only jobs =>
    split at single
    · cases single
      simp [jobName, jobs]
    · cases single
  · cases single

theorem Stemcells.upload_orderly {extracted : ExtractedStemcell} (orderly : s.Orderly c) :
    Meets c (.oneVm c) s (upload extracted stage)
      (fun record t => t.Orderly c ∧ (record.name = extracted.manifest.name ∧
          record.version = extracted.manifest.version) ∧
        t.doc.findStemcell record.name record.version = some record ∧ Frame [.stemcells] s t)
      fun _ => Interrupted c := by
  have upload := (upload_touches extracted stage).oneVm (by decide) (upload_meets (c := c) (s := s))
  apply upload.weaken
  · intro record t uploaded
    obtain ⟨uploaded, frame⟩ := uploaded
    obtain ⟨-, same⟩ | ⟨-, added, nonempty, newId, known, unused⟩ := uploaded.change
    · exact ⟨orderly.sameStemcells frame same, uploaded.named, uploaded.found, frame⟩
    · refine ⟨orderly.touching frame ?_, uploaded.named, uploaded.found, frame⟩
      change t.stemcells.Orderly c t.ids
      rw [added]
      exact orderly.stemcells.add nonempty newId unused frame.ids known
  · rintro _ t ⟨⟨same, troubled⟩ | fails | ⟨record, member, unseen⟩, frame⟩
    · exact fun _ => ⟨orderly.sameStemcells frame same, troubled⟩
    · exact .ofStoreFails fails
    · exact absurd (orderly.stemcells.regular.cidsSeen record member) unseen

/-- What a manifest and a stemcell ask for. -/
structure Deployed (manifest : Manifest) (extracted : ExtractedStemcell) (s t : Surroundings) :
    Prop where
  machine : t.machine.made = s.machine.made ++ [t.machine.current]
  stemcell : ∃ record, t.stemcells.records = [record] ∧ t.stemcells.current = some record ∧
    record.name = extracted.manifest.name ∧ record.version = extracted.manifest.version
  releases : ReleasesConverged manifest.releases t
  recorded : ReleasesRecorded manifest.releases t
  disk : ∃ job pool, manifest.singleJob = .ok job ∧ manifest.diskPool job.name = .ok pool ∧
    DiskConverged ⟨t.machine.current⟩ pool s t

namespace Deployment

/-- From the moment when no machine is recorded: the machine is made and the jobs are brought up,
and everything that is not used is deleted. -/
theorem rebuild_orderly {settings : Settings} {job : Job} {stemcell : StemcellRecord}
    {registry : RegistryConfig} {tunnel : SshTunnelConfig} (orderly : s.Orderly c)
    (none : s.machine.current = "") (single : manifest.singleJob = .ok job)
    (found : s.doc.findStemcell stemcell.name stemcell.version = some stemcell) :
    Meets c (.oneVm c) s (do
      let (i, _) ← within s!"Creating instance '{job.name}/0'"
        (Instances.create settings job.name 0 manifest stemcell registry tunnel stage)
      discard <| (Instance.updateJobs manifest stage).toEngine i
      discard <| within "Recording deployed releases" (Releases.record manifest.releases)
      Stemcells.deleteUnused stage
      Releases.deleteUnused stage
      stage.finish)
      (fun _ t => t.Orderly c ∧ t.machine.made = s.machine.made ++ [t.machine.current] ∧
        (t.stemcells.records = [stemcell] ∧ t.stemcells.current = some stemcell) ∧
        (ReleasesConverged manifest.releases t ∧ ReleasesRecorded manifest.releases t) ∧
        ∃ pool, manifest.diskPool job.name = .ok pool ∧
          DiskConverged ⟨t.machine.current⟩ pool s t)
      fun _ => Stopped c manifest := by
  have named := Manifest.jobName_of_singleJob single
  apply Meets.bind (Meets.inContext (Instances.create_orderly orderly none named found))
  intro result t₁ created
  obtain ⟨i, disks⟩ := result
  obtain ⟨orderly₁, vm, placed, records₁, pool, known, converged⟩ := created
  rw [named] at known
  apply Meets.stopped
  refine Meets.bind (Q := fun _ t => Frame [] t₁ t) (Meets.discard
    ((i.updateJobs_quiet stage manifest).orderly orderly₁)) fun _ t₂ frame₂ => ?_
  have orderly₂ := orderly₁.same frame₂
  refine Meets.bind (Q := fun _ t => t.Orderly c ∧ ReleasesRecorded manifest.releases t ∧
    Frame [.releases] t₂ t) (Meets.discard (Meets.inContext (Releases.record_orderly orderly₂))) ?_
  intro _ t₃ listed
  obtain ⟨orderly₃, recorded, frame₃⟩ := listed
  apply Meets.bind
    ((Stemcells.deleteUnused_touches stage).returns (Stemcells.deleteUnused_orderly orderly₃))
  intro _ t₄ swept
  obtain ⟨⟨orderly₄, records₄, current₄⟩, frame₄⟩ := swept
  apply Meets.bind (Releases.deleteUnused_orderly orderly₄)
  intro _ t₅ pruned
  obtain ⟨orderly₅, releases₅, frame₅⟩ := pruned
  -- nothing after the machine was made touches it, its disk or the pointer to its stemcell
  have recorded₄ := recorded.congr (frame₄.releases_of (by decide)) frame₄.ids
  have before : Frame [.releases] t₁ t₃ := (frame₂.weaken (by simp)).trans frame₃
  have after : Frame [.releases, .stemcells] t₁ t₅ :=
    (before.weaken (by simp)).trans ((frame₄.weaken (by simp)).trans (frame₅.weaken (by simp)))
  have machine := after.machine_of (by decide)
  have disks := after.disks_of (by decide)
  have attachments := after.attachments_of (by decide)
  have stemcells : t₃.stemcells = t₁.stemcells := before.stemcells_of (by decide)
  have kept : t₅.stemcells = t₄.stemcells := frame₅.stemcells_of (by decide)
  have recorded₅ := recorded₄.kept releases₅ frame₅.ids
  refine Meets.report ⟨orderly₅, ?_, ⟨?_, ?_⟩, ⟨recorded₄.converged releases₅, recorded₅⟩, pool,
    known, ?_⟩
  · rw [machine, placed.made, placed.current]
  · rw [kept, records₄, stemcells, placed.stemcell]
    rfl
  · rw [kept, current₄, stemcells, placed.stemcell]
  · rw [machine, placed.current]
    exact converged.congr rfl disks attachments

/-- A deployment needs no trouble but what stops it. -/
theorem deploy_orderly {settings : Settings} {extracted : ExtractedStemcell}
    {registry : RegistryConfig} {tunnel : SshTunnelConfig} (orderly : s.Orderly c) :
    Meets c (.oneVm c) s (deploy settings manifest extracted registry tunnel)
      (fun _ t => t.Orderly c ∧ Deployed manifest extracted s t) fun _ => Stopped c manifest := by
  unfold deploy
  refine Meets.bind (Q := fun job t => manifest.singleJob = .ok job ∧ s = t) (Meets.valid
    (fun job single => ⟨single, rfl⟩) fun e invalid _ => ⟨orderly, fun resolves => ?_⟩) ?_
  · obtain ⟨job, single⟩ := resolves.job
    cases invalid.symm.trans single
  rintro job _ ⟨single, rfl⟩
  apply Meets.bind (Q := fun _ t => s = t) (Meets.report rfl)
  rintro _ _ rfl
  apply Meets.bind (Meets.inContext (Stemcells.upload_orderly orderly).stopped)
  intro stemcell t₁ uploaded
  obtain ⟨orderly₁, named, found, frame₁⟩ := uploaded
  apply Meets.bind (Q := fun _ t => t₁ = t) (Meets.report rfl)
  rintro _ _ rfl
  apply Meets.bind (Q := fun _ t => t₁ = t) (Meets.report rfl)
  rintro _ _ rfl
  apply Meets.bind (Instances.deleteAll_orderly orderly₁).stopped
  intro _ t₂ deleted
  obtain ⟨orderly₂, gone, frame₂⟩ := deleted
  have found₂ : t₂.doc.findStemcell stemcell.name stemcell.version = some stemcell := by
    rw [← found]
    change t₂.stemcells.records.find? _ = t₁.stemcells.records.find? _
    rw [gone.stemcells]
  refine (rebuild_orderly orderly₂ gone.current single found₂).weaken ?_ fun _ _ h => h
  intro _ t rebuilt
  obtain ⟨orderly₃, made, ⟨records, current⟩, ⟨releases, recorded⟩, pool, known, converged⟩ :=
    rebuilt
  refine ⟨orderly₃, ?_, ⟨stemcell, records, current, named⟩, releases, recorded, job, pool, single,
    known, ?_⟩
  · rw [made, gone.made, frame₁.machine_of (by decide)]
  · refine converged.congr ?_ rfl rfl
    rw [frame₂.disks_of (by decide), frame₁.disks_of (by decide)]

/-- The instances are deleted in reverse order, and none is left in hand. -/
theorem deleteInstances_toEngine (stage : Stage) (deployment : Deployment) :
    (deleteInstances stage deployment.instances.length).toEngine deployment = (do
      forEach deployment.instances.reverse fun i => do
        discard <| within s!"Deleting instance '{i.label}'"
          ((Instance.delete deployment.settings.pingTimeout deployment.settings.pingDelay
            deployment.settings.skipDrain stage).toEngine i)
      return ((), { deployment with instances := [] })) := by
  obtain ⟨instances, disks, stemcells, settings⟩ := deployment
  induction instances using List.reverseRecOn with
  | nil => rfl
  | append_singleton instances i ih =>
    rw [List.reverse_concat, forEach, bind_assoc]
    rw [← ih]
    simp [deleteInstances, discard_bind]

/-- The disks are deleted in reverse order, and none is left in hand. -/
theorem deleteDisks_toEngine (stage : Stage) (deployment : Deployment) :
    (deleteDisks stage deployment.disks.length).toEngine deployment = (do
      forEach deployment.disks.reverse fun disk =>
        disk.deleteInStep stage s!"Deleting disk '{disk.cid}'"
      return ((), { deployment with disks := [] })) := by
  obtain ⟨instances, disks, stemcells, settings⟩ := deployment
  induction disks using List.reverseRecOn with
  | nil => rfl
  | append_singleton disks disk ih =>
    rw [List.reverse_concat, forEach, bind_assoc, ← ih]
    simp [deleteDisks]

/-- The stemcells are deleted in reverse order, and none is left in hand. -/
theorem deleteStemcells_toEngine (stage : Stage) (deployment : Deployment) :
    (deleteStemcells stage deployment.stemcells.length).toEngine deployment = (do
      forEach deployment.stemcells.reverse fun stemcell =>
        stemcell.deleteInStep stage s!"Deleting stemcell '{stemcell.cid}'"
      return ((), { deployment with stemcells := [] })) := by
  obtain ⟨instances, disks, stemcells, settings⟩ := deployment
  induction stemcells using List.reverseRecOn with
  | nil => rfl
  | append_singleton stemcells stemcell ih =>
    rw [List.reverse_concat, forEach, bind_assoc, ← ih]
    simp [deleteStemcells]

theorem delete_toEngine (stage : Stage) (deployment : Deployment) :
    (delete stage).toEngine deployment = (do
      forEach deployment.instances.reverse fun i => do
        discard <| within s!"Deleting instance '{i.label}'"
          ((Instance.delete deployment.settings.pingTimeout deployment.settings.pingDelay
            deployment.settings.skipDrain stage).toEngine i)
      forEach deployment.disks.reverse fun disk =>
        disk.deleteInStep stage s!"Deleting disk '{disk.cid}'"
      forEach deployment.stemcells.reverse fun stemcell =>
        stemcell.deleteInStep stage s!"Deleting stemcell '{stemcell.cid}'"
      return ((), ⟨[], [], [], deployment.settings⟩)) := by
  have disks := deleteDisks_toEngine stage { deployment with instances := [] }
  have stemcells := deleteStemcells_toEngine stage { deployment with instances := [], disks := [] }
  simp only [delete, Stateful.toEngine_bind, Stateful.toEngine_get, pure_bind,
    deleteInstances_toEngine, bind_assoc, disks, stemcells]

/-- Each instance is that of a recorded machine, and disk and stemcell are the current ones. -/
structure FoundIn (deployment : Deployment) (s : Surroundings) : Prop where
  instances : deployment.instances.map (·.vm) = s.machine.vm?.toList
  disks : deployment.disks = s.disks.current.toList
  stemcells : deployment.stemcells = s.stemcells.current.toList

theorem findCurrent_meets {g : Guard} {settings : Settings} : Meets c g s (findCurrent settings)
    (fun found t => Frame [] s t ∧ ∃ deployment : Deployment, deployment.FoundIn s ∧
      found = if deployment.isEmpty then none else some deployment)
    fun _ t => c.StoreFails ∧ Frame [] s t := by
  unfold findCurrent
  apply Meets.bind (Meets.inContext Instances.findCurrent_meets)
  intro instances t looked
  obtain ⟨recorded, frame₁⟩ := looked
  refine Meets.bind (Meets.inContext (Disks.findCurrent_meets.weaken (fun _ _ h => h)
    fun _ _ h => ⟨h.1, frame₁.trans h.2⟩)) ?_
  intro _ u looked
  obtain ⟨rfl, frame₂⟩ := looked
  have before := frame₁.trans frame₂
  refine Meets.bind (Meets.inContext (Stemcells.findCurrent_meets.weaken (fun _ _ h => h)
    fun _ _ h => ⟨h.1, before.trans h.2⟩)) ?_
  intro _ v looked
  obtain ⟨rfl, frame₃⟩ := looked
  refine Meets.pure ⟨before.trans frame₃, _, ⟨recorded, ?_, ?_⟩, rfl⟩
  · rw [frame₁.disks]
  · rw [before.stemcells]

end Deployment

/-- Nothing is current any more. -/
structure Surroundings.Undeployed (s : Surroundings) : Prop where
  machine : s.machine.current = ""
  disk : s.disks.pointer = ""
  stemcell : s.stemcells.pointer = ""

namespace Deployment

/-- Nothing is found exactly where nothing is current. -/
theorem FoundIn.isEmpty_iff {deployment : Deployment} (found : deployment.FoundIn s)
    (orderly : s.Orderly c) : deployment.isEmpty = true ↔ s.Undeployed := by
  have machine : deployment.instances = [] ↔ s.machine.current = "" := by
    rw [← List.map_eq_nil_iff (f := Instance.vm), found.instances, Option.toList_eq_nil_iff,
      MachinePart.vm?]
    simp
  have disk : deployment.disks = [] ↔ s.disks.pointer = "" := by
    rw [found.disks, Option.toList_eq_nil_iff, orderly.disks.regular.current_eq_none_iff]
  have stemcell : deployment.stemcells = [] ↔ s.stemcells.pointer = "" := by
    rw [found.stemcells, Option.toList_eq_nil_iff, orderly.stemcells.regular.current_eq_none_iff]
  simp only [isEmpty, Bool.and_eq_true, List.isEmpty_iff, machine, disk, stemcell]
  exact ⟨fun h => ⟨h.1.1, h.1.2, h.2⟩, fun h => ⟨⟨h.machine, h.disk⟩, h.stemcell⟩⟩

theorem FoundIn.same {deployment : Deployment} (found : deployment.FoundIn s)
    (frame : Frame [] s t) : deployment.FoundIn t where
  instances := by rw [frame.machine, found.instances]
  disks := by rw [frame.disks, found.disks]
  stemcells := by rw [frame.stemcells, found.stemcells]

/-- The current disk goes with its pointer. -/
theorem deleteCurrentDisk_orderly {step : DiskRecord → String} (orderly : s.Orderly c) :
    Meets c (.oneVm c) s (forEach s.disks.current.toList.reverse fun disk =>
      disk.deleteInStep stage (step disk))
      (fun _ t => t.Orderly c ∧ t.disks.pointer = "" ∧ Frame [.disks] s t)
      fun _ => Interrupted c := by
  cases now : s.disks.current with
  | none =>
    have empty := orderly.disks.regular.current_eq_none_iff.mp now
    exact Meets.pure ⟨orderly, empty, Frame.refl _ s⟩
  | some disk =>
    have member := Shelf.current_mem now
    refine Meets.seq (DiskRecord.deleteInStep_orderly orderly) (fun _ _ h faithful => ?_)
      fun _ t h => Meets.pure ?_
    · exact ⟨(h faithful).1, (h faithful).2 (orderly.disks.there member faithful)⟩
    obtain ⟨orderly', deleted, frame⟩ := h
    refine ⟨orderly', ?_, frame⟩
    rw [deleted.disks, show s.disks.forget disk.cid = _ from
      orderly.disks.regular.forget_eq member]
    exact Shelf.pointer_remove now

/-- The stemcell of a machine that is gone is deleted by its record, which is still there although
the pointer to it may have gone with the machine. -/
theorem deleteUsedStemcell_orderly {step : StemcellRecord → String} (orderly : s.Orderly c)
    (gone : MachineGone s t) (orderly' : t.Orderly c) :
    Meets c (.oneVm c) t (forEach s.stemcells.current.toList.reverse fun stemcell =>
      stemcell.deleteInStep stage (step stemcell))
      (fun _ u => u.Orderly c ∧ u.stemcells.pointer = "" ∧ Frame [.stemcells] t u)
      fun _ => Interrupted c := by
  cases now : s.stemcells.current with
  | none =>
    have empty := orderly.stemcells.regular.current_eq_none_iff.mp now
    refine Meets.pure ⟨orderly', ?_, Frame.refl _ t⟩
    exact gone.pointer.elim (·.trans empty) id
  | some stemcell =>
    have member : stemcell ∈ t.stemcells.records := by
      rw [gone.stemcells]
      exact Shelf.current_mem now
    refine Meets.bind (StemcellRecord.deleteInStep_orderly orderly' member) fun _ u h =>
      Meets.pure ?_
    obtain ⟨orderly₂, deleted, frame⟩ := h
    refine ⟨orderly₂, ?_, frame⟩
    rw [deleted.stemcells]
    change (if t.stemcells.pointer = stemcell.id then "" else t.stemcells.pointer) = ""
    obtain kept | cleared := gone.pointer
    · rw [kept]
      exact Shelf.pointer_remove now
    · simp [cleared]

/-- What is taken down goes in an order in which every record is still there. -/
theorem delete_orderly {deployment : Deployment} (orderly : s.Orderly c)
    (found : deployment.FoundIn s) :
    Meets c (.oneVm c) s ((delete stage).toEngine deployment)
      (fun _ t => t.Orderly c ∧ t.Undeployed) fun _ => Interrupted c := by
  rw [delete_toEngine, found.disks, found.stemcells]
  have reversed : deployment.instances.reverse.map (·.vm) = s.machine.vm?.toList := by
    rw [List.map_reverse, found.instances]
    cases s.machine.vm? <;> rfl
  apply Meets.bind (Instances.deleteEach_orderly orderly reversed)
  intro _ t₁ taken
  obtain ⟨orderly₁, gone, frame₁⟩ := taken
  rw [← frame₁.disks_of (by decide)]
  apply Meets.bind (deleteCurrentDisk_orderly orderly₁)
  intro _ t₂ deleted
  obtain ⟨orderly₂, disk, frame₂⟩ := deleted
  have stemcells := frame₂.stemcells_of (by decide)
  have machine := frame₂.machine_of (by decide)
  have gone₂ : MachineGone s t₂ :=
    ⟨by rw [machine, gone.current], by rw [machine, gone.made], by rw [stemcells, gone.stemcells],
      by rw [stemcells]; exact gone.pointer⟩
  apply Meets.bind (deleteUsedStemcell_orderly orderly gone₂ orderly₂)
  intro _ t₃ deleted
  obtain ⟨orderly₃, stemcell, frame₃⟩ := deleted
  refine Meets.pure ⟨orderly₃, ?_, ?_, stemcell⟩
  · rw [frame₃.machine_of (by decide), gone₂.current]
  · rw [frame₃.disks_of (by decide), disk]

end Deployment

/-- Finding out what is deployed and taking it down. -/
theorem Operation.delete_orderly {settings : Settings} (orderly : s.Orderly c) :
    Meets c (.oneVm c) s (delete settings stage).program
      (fun _ t => t.Orderly c ∧ t.Undeployed) fun _ => Interrupted c := by
  apply Meets.bind Deployment.findCurrent_meets.interrupted
  rintro _ t ⟨before, deployment, found, rfl⟩
  have orderly' := orderly.same before
  have found' := found.same before
  cases empty : deployment.isEmpty with
  | true => exact Meets.pure ⟨orderly', (found'.isEmpty_iff orderly').mp empty⟩
  | false => exact Meets.discard (Deployment.delete_orderly orderly' found')

/-- Wherever an operation stops, the books are in order. -/
theorem Operation.orderly {operation : Operation} (orderly : s.Orderly c) :
    Meets c (.oneVm c) s operation.program (fun _ t => t.Orderly c)
      fun _ t => c.Faithful → t.Orderly c := by
  cases operation with
  | deploy =>
    exact (Deployment.deploy_orderly orderly).weaken (fun _ _ h => h.1)
      fun _ _ h faithful => (h faithful).1
  | cleanUp =>
    exact (Deployment.cleanUp_orderly orderly).weaken (fun _ _ h => h.1)
      fun _ _ h faithful => (h faithful).1
  | delete settings stage =>
    exact (Operation.delete_orderly orderly).weaken (fun _ _ h => h.1)
      fun _ _ h faithful => (h faithful).1

end Reconciler
