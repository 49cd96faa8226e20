import Reconciler.Proofs.Bookkeeping

/-!
The persistent disk of a machine, brought to what a pool asks for. From any books that are in order
it ends as the only disk, current and attached to the machine. A run that fails on the way leaves
the books in order, so that the next one finds its disks.
-/
namespace Reconciler

open Engine Surroundings

/-- A disk that needs no migration to another one of the pool. -/
structure DiskRecord.Fits (disk : DiskRecord) (pool : DiskPool) : Prop where
  size : disk.size = pool.size
  properties : Json.sameMembers disk.cloudProperties pool.propertiesOrEmpty = true

/-- The current disk is as wanted, and was attached to the machine after everything else. -/
structure DiskInPlace (vm : Vm) (pool : DiskPool) (disk : DiskRecord) (s : Surroundings) :
    Prop where
  current : s.disks.current = some disk
  fits : disk.Fits pool
  attached : ∃ before, s.attachments = before ++ [(disk.cid, vm.cid)]

/-- One disk is recorded and in place; without a disk to ask for nothing has changed. -/
def DiskConverged (vm : Vm) (pool : DiskPool) (s t : Surroundings) : Prop :=
  if pool.size = 0 then t.disks = s.disks
  else ∃ disk, t.disks.records = [disk] ∧ DiskInPlace vm pool disk t

theorem DiskConverged.congr {vm : Vm} {pool : DiskPool} {s s' t t' : Surroundings}
    (converged : DiskConverged vm pool s t) (before : s.disks = s'.disks)
    (after : t'.disks = t.disks) (attachments : t'.attachments = t.attachments) :
    DiskConverged vm pool s' t' := by
  unfold DiskConverged at converged ⊢
  rw [after, ← before]
  split at converged
  · next none => rwa [if_pos none]
  · next some =>
    rw [if_neg some]
    obtain ⟨disk, records, current, fits, attached⟩ := converged
    exact ⟨disk, records, after ▸ current, fits, attachments ▸ attached⟩

theorem DiskRecord.fits_of_needsMigration {disk : DiskRecord} {pool : DiskPool}
    (keeps : disk.needsMigration pool.size pool.cloudProperties = false) : disk.Fits pool := by
  unfold needsMigration at keeps
  cases properties : pool.cloudProperties with
  | none => simp [properties] at keeps
  | some wanted =>
    simp only [properties, Bool.or_eq_false_iff, bne_eq_false_iff_eq, Bool.not_eq_false'] at keeps
    exact ⟨keeps.1, by simpa [DiskPool.propertiesOrEmpty, properties] using keeps.2⟩

variable {c : Conduct} {s t : Surroundings} {vm : Vm} {stage : Stage} {pool : DiskPool}
  {disk : DiskRecord}

/-- The machine that a disk is for is there. -/
def Surroundings.Runs (c : Conduct) (vm : Vm) (s : Surroundings) : Prop :=
  c.Faithful → vm.cid ∈ s.cloud .vm

theorem Surroundings.Runs.frame {parts : List Part} (runs : s.Runs c vm) (frame : Frame parts s t)
    (other : .machine ∉ parts) : t.Runs c vm := by
  intro faithful
  rw [show t.cloud .vm = s.cloud .vm from congrArg MachinePart.there (frame.machine_of other)]
  exact runs faithful

namespace PersistentDisk

theorem create_orderly (orderly : s.Orderly c) (runs : s.Runs c vm) :
    Meets c (.oneVm c) s (create vm stage pool)
      (fun record t => t.Orderly c ∧ t.disks = s.disks.add record ∧ record.Fits pool ∧
        Frame [.disks] s t)
      fun _ => Interrupted c := by
  have creation := (create_touches vm stage pool).framed (Meets.runStep (Disks.create_meets
    (c := c) (g := .oneVm c) (s := s) (fun _ _ => trivial) fun _ _ => trivial))
  apply creation.weaken
  · intro record t created
    obtain ⟨made, frame⟩ := created
    refine ⟨orderly.touching frame ?_, made.disks, ⟨made.size, ?_⟩, frame⟩
    · change t.disks.Orderly c t.ids
      rw [made.disks]
      exact orderly.disks.add made.named made.newId made.unused frame.ids made.known
    · rw [made.properties]
      exact Json.sameMembers_self _
  · intro _ t stopped faithful
    obtain ⟨failed, frame⟩ := stopped
    exact ⟨orderly.sameDisks frame (failed.same faithful.stores),
      failed.cause faithful.stores (runs faithful)⟩

theorem attach_orderly (orderly : s.Orderly c) (runs : s.Runs c vm)
    (recorded : disk ∈ s.disks.records) :
    Meets c (.oneVm c) s (attach vm stage disk)
      (fun _ t => t.Orderly c ∧ t.disks = s.disks ∧
        t.attachments = s.attachments ++ [(disk.cid, vm.cid)] ∧ Frame [.disks] s t)
      fun _ => Interrupted c := by
  have attaching := (attach_touches vm stage disk).framed (Meets.runStep (vm.attachDisk_meets
    (c := c) (g := .oneVm c) (s := s) trivial))
  apply attaching.weaken
  · intro _ t attached
    obtain ⟨⟨disks, attachments, -⟩, frame⟩ := attached
    exact ⟨orderly.sameDisks frame disks, disks, attachments, frame⟩
  · intro _ t stopped faithful
    obtain ⟨⟨disks, cause⟩, frame⟩ := stopped
    exact ⟨orderly.sameDisks frame disks,
      cause (runs faithful) (orderly.disks.there recorded faithful)⟩

/-- The disk that becomes current is the recorded one: no other record has its cid. -/
theorem makeCurrent_orderly (orderly : s.Orderly c) (recorded : disk ∈ s.disks.records) :
    Meets c (.oneVm c) s (makeCurrent disk)
      (fun _ t => t.Orderly c ∧ t.disks = { s.disks with pointer := disk.id } ∧
        t.attachments = s.attachments ∧ Frame [.disks] s t)
      fun _ => Interrupted c := by
  have found : s.doc.findDisk disk.cid = some disk := orderly.disks.regular.find_cid recorded
  have moving := (makeCurrent_touches disk).framed (makeCurrent_meets (c := c) (g := .oneVm c)
    (s := s) fun _ _ _ _ => trivial)
  apply moving.weaken
  · intro _ t moved
    obtain ⟨⟨record, same, disks, attachments⟩, frame⟩ := moved
    cases found.symm.trans same
    refine ⟨orderly.touching frame ?_, disks, attachments, frame⟩
    change t.disks.Orderly c t.ids
    rw [disks]
    exact (orderly.disks.mono frame.ids).pointTo recorded
  · rintro _ t ⟨⟨disks, -, fails | absent⟩, frame⟩
    · exact .ofStoreFails fails
    · cases found.symm.trans absent

theorem createFirst_orderly (orderly : s.Orderly c) (runs : s.Runs c vm) :
    Meets c (.oneVm c) s (createFirst vm stage pool)
      (fun disk t => t.Orderly c ∧ DiskInPlace vm pool disk t) fun _ => Interrupted c := by
  unfold createFirst
  apply Meets.bind (create_orderly orderly runs)
  intro disk t created
  obtain ⟨orderly₁, disks₁, fits, frame₁⟩ := created
  have recorded : disk ∈ t.disks.records := by simp [disks₁, Shelf.add]
  apply Meets.bind (attach_orderly orderly₁ (runs.frame frame₁ (by decide)) recorded)
  intro _ u attached
  obtain ⟨orderly₂, disks₂, attachments₂, -⟩ := attached
  rw [← disks₂] at recorded
  apply Meets.bind (makeCurrent_orderly orderly₂ recorded)
  intro _ v moved
  obtain ⟨orderly₃, disks₃, attachments₃, -⟩ := moved
  refine Meets.pure ⟨orderly₃, ?_, fits, _, attachments₃.trans attachments₂⟩
  rw [disks₃]
  exact orderly₂.disks.regular.current_pointTo recorded

/-- Taking leave of a disk that is not current any more. -/
theorem release_orderly {new : DiskRecord} (orderly : s.Orderly c) (runs : s.Runs c vm)
    (recorded : disk ∈ s.disks.records) (current : s.disks.current = some new)
    (other : disk.cid ≠ new.cid) {step step' : String} :
    Meets c (.oneVm c) s (do
      Engine.runStep stage step (vm.detachDisk disk)
      disk.deleteInStep stage step')
      (fun _ t => t.Orderly c ∧ t.disks.current = some new ∧ t.attachments = s.attachments)
      fun _ => Interrupted c := by
  have there (faithful : c.Faithful) : disk.cid ∈ s.cloud .disk :=
    orderly.disks.there recorded faithful
  have detached := (vm.detachDisk_touches disk).framed
    (vm.detachDisk_meets (c := c) (g := .oneVm c) (s := s) trivial)
  apply Meets.seq (Meets.runStep detached)
  · intro _ t stopped faithful
    obtain ⟨⟨disks, cause⟩, frame⟩ := stopped
    exact ⟨orderly.sameDisks frame disks, cause (runs faithful) (there faithful)⟩
  intro _ t detached
  obtain ⟨⟨disks, attachments⟩, frame⟩ := detached
  have orderly₁ := orderly.sameDisks frame disks
  refine (DiskRecord.deleteInStep_orderly orderly₁).weaken ?_ fun _ u h faithful => ?_
  · intro _ u forgotten
    obtain ⟨orderly₂, deleted, -⟩ := forgotten
    refine ⟨orderly₂, ?_, deleted.attachments.trans attachments⟩
    rw [deleted.disks, disks]
    exact orderly.disks.regular.current_forget current other
  · have there' : disk.cid ∈ t.cloud .disk := by
      rw [show t.cloud .disk = s.cloud .disk from congrArg Shelf.there disks]
      exact there faithful
    exact ⟨(h faithful).1, (h faithful).2 there'⟩

/-- The new disk is attached last, and the old one is another one. -/
theorem migrate_orderly (orderly : s.Orderly c) (runs : s.Runs c vm)
    (current : s.disks.current = some disk) :
    Meets c (.oneVm c) s (migrate vm stage disk pool)
      (fun new t => t.Orderly c ∧ DiskInPlace vm pool new t) fun _ => Interrupted c := by
  unfold migrate
  apply Meets.bind (create_orderly orderly runs)
  intro new t₁ created
  obtain ⟨orderly₁, disks₁, fits, frame₁⟩ := created
  have runs₁ := runs.frame frame₁ (by decide)
  have old : disk ∈ t₁.disks.records := by simp [disks₁, Shelf.add, Shelf.current_mem current]
  have recorded : new ∈ t₁.disks.records := by simp [disks₁, Shelf.add]
  have other : disk.cid ≠ new.cid :=
    (disks₁ ▸ orderly₁.disks.regular).cids_ne_added (Shelf.current_mem current)
  apply Meets.bind (attach_orderly orderly₁ runs₁ recorded)
  intro _ t₂ attached
  obtain ⟨orderly₂, disks₂, attachments₂, frame₂⟩ := attached
  apply Meets.bind (Meets.runStep ((agent_meets fun _ => trivial).weaken (fun _ _ h => h)
    fun _ t h _ => ⟨orderly₂.same h.1, h.2⟩))
  intro _ t₃ frame₃
  have orderly₃ := orderly₂.same frame₃
  have disks₃ := frame₃.disks.trans disks₂
  rw [← disks₃] at recorded old
  apply Meets.bind (makeCurrent_orderly orderly₃ recorded)
  intro _ t₄ moved
  obtain ⟨orderly₄, disks₄, attachments₄, frame₄⟩ := moved
  have runs₄ := ((runs₁.frame frame₂ (by decide)).frame frame₃ (by decide)).frame frame₄ (by decide)
  have current₄ : t₄.disks.current = some new := by
    rw [disks₄]
    exact orderly₃.disks.regular.current_pointTo recorded
  rw [show t₃.disks.records = t₄.disks.records by rw [disks₄]] at old
  simp only [← bind_assoc]
  apply Meets.bind (release_orderly orderly₄ runs₄ old current₄ other)
  intro _ t₅ released
  obtain ⟨orderly₅, current₅, attachments₅⟩ := released
  refine Meets.pure ⟨orderly₅, current₅, fits, t₁.attachments, ?_⟩
  rw [attachments₅, attachments₄, frame₃.attachments, attachments₂]

/-- A migration that may be needed. -/
theorem keepOrMigrate_orderly (orderly : s.Orderly c) (runs : s.Runs c vm)
    (current : s.disks.current = some disk) :
    Meets c (.oneVm c) s (keepOrMigrate vm stage disk pool)
      (fun disk t => t.Orderly c ∧ DiskInPlace vm pool disk t) fun _ => Interrupted c := by
  unfold keepOrMigrate
  apply Meets.bind (attach_orderly orderly runs (Shelf.current_mem current))
  intro _ t attached
  obtain ⟨orderly', disks, attachments, frame⟩ := attached
  rw [← disks] at current
  split
  · exact migrate_orderly orderly' (runs.frame frame (by decide)) current
  · next keeps =>
    have fits := DiskRecord.fits_of_needsMigration (by simpa using keeps)
    exact Meets.pure ⟨orderly', current, fits, _, attachments⟩

/-- With the disk in place nothing else is recorded. -/
theorem settle_orderly (orderly : s.Orderly c) (placed : DiskInPlace vm pool disk s) :
    Meets c (.oneVm c) s (Disks.deleteUnused stage)
      (fun _ t => t.Orderly c ∧ t.disks.records = [disk] ∧ DiskInPlace vm pool disk t)
      fun _ => Interrupted c := by
  refine (Disks.deleteUnused_orderly orderly).weaken ?_ fun _ _ h => h
  intro _ t swept
  obtain ⟨orderly', records, current, attachments⟩ := swept
  rw [placed.current] at records current
  exact ⟨orderly', records, current, placed.fits, attachments ▸ placed.attached⟩

theorem converge_orderly (orderly : s.Orderly c) (runs : s.Runs c vm) :
    Meets c (.oneVm c) s (converge vm stage pool)
      (fun _ t => t.Orderly c ∧ DiskConverged vm pool s t) fun _ => Interrupted c := by
  unfold converge
  split
  case isTrue none => exact Meets.pure ⟨orderly, by simp [DiskConverged, none]⟩
  case isFalse some =>
    have settled {disk : DiskRecord} {t : Surroundings} (orderly : t.Orderly c)
        (placed : DiskInPlace vm pool disk t) :
        Meets c (.oneVm c) t (do Disks.deleteUnused stage; return [disk])
          (fun _ u => u.Orderly c ∧ DiskConverged vm pool s u) fun _ => Interrupted c := by
      apply Meets.bind (settle_orderly orderly placed)
      intro _ u settled
      obtain ⟨orderly', records, placed'⟩ := settled
      refine Meets.pure ⟨orderly', ?_⟩
      rw [DiskConverged, if_neg some]
      exact ⟨disk, records, placed'⟩
    apply Meets.bind (Meets.inContext Disks.findCurrent_meets.interrupted)
    intro found t looked
    obtain ⟨rfl, frame⟩ := looked
    have before := orderly.same frame
    have runs' := runs.frame frame (by decide)
    rw [← frame.disks]
    cases current : t.disks.current with
    | some disk =>
      exact Meets.bind (keepOrMigrate_orderly before runs' current) fun _ _ h => settled h.1 h.2
    | none => exact Meets.bind (createFirst_orderly before runs') fun _ _ h => settled h.1 h.2

end PersistentDisk

/-- The disks of an instance are those of its machine. -/
theorem Instance.updateDisks_orderly (manifest : Manifest) {i : Instance}
    (orderly : s.Orderly c) (runs : s.Runs c i.vm) :
    Meets c (.oneVm c) s ((updateDisks manifest stage).toEngine i)
      (fun _ t => t.Orderly c ∧ Frame [.disks] s t ∧
        ∃ pool, manifest.diskPool i.jobName = .ok pool ∧ DiskConverged i.vm pool s t)
      fun _ t => c.Faithful → t.Orderly c ∧
        ((∃ pool, manifest.diskPool i.jobName = .ok pool) → c.Troubled) := by
  have valid : Meets c (.oneVm c) s ((updateDisks manifest stage).toEngine i)
      (fun _ t => t.Orderly c ∧
        ∃ pool, manifest.diskPool i.jobName = .ok pool ∧ DiskConverged i.vm pool s t)
      fun _ t => c.Faithful → t.Orderly c ∧
        ((∃ pool, manifest.diskPool i.jobName = .ok pool) → c.Troubled) := by
    simp only [updateDisks, enter, Stateful.toEngine_bind, Stateful.toEngine_get, pure_bind,
      Stateful.toEngine_engine, bind_assoc, Stateful.toEngine_modify, Stateful.toEngine_pure]
    refine Meets.bind (Q := fun pool t => manifest.diskPool i.jobName = .ok pool ∧ t = s)
      (Meets.inContext (Meets.valid (fun _ found => ⟨found, rfl⟩) ?_)) ?_
    · rintro e invalid -
      refine ⟨orderly, ?_⟩
      rintro ⟨pool, found⟩
      cases invalid.symm.trans found
    rintro pool _ ⟨found, rfl⟩
    refine Meets.seq (Meets.inContext (Meets.inContext
      (PersistentDisk.converge_orderly orderly runs))) ?_ ?_
    · exact fun _ t h faithful => ⟨(h faithful).1, fun _ => (h faithful).2⟩
    · exact fun _ t h => Meets.pure ⟨h.1, pool, found, h.2⟩
  have framed := (i.updateDisks_touches stage manifest).framed valid
  exact framed.weaken (fun _ t h => ⟨h.1.1, h.2, h.1.2⟩) fun _ t h => h.1

end Reconciler
