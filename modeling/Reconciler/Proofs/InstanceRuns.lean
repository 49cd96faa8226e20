import Reconciler.Proofs.DiskConvergence

/-!
Runs that take an instance down and bring a new one up. There is never more than one machine: a new
one is made where none is recorded, and where the books balance the cloud has none then.
-/
namespace Reconciler

open Engine Surroundings

variable {c : Conduct} {s t : Surroundings} {stage : Stage} {stemcell : StemcellRecord}
  {manifest : Manifest}

/-- A failure that leaves the books in order, and that a sound manifest has only in trouble. -/
def Surroundings.Stopped (c : Conduct) (manifest : Manifest) (s : Surroundings) : Prop :=
  c.Faithful → s.Orderly c ∧ (manifest.Resolves → c.Troubled)

theorem Surroundings.Interrupted.stopped (h : s.Interrupted c) : s.Stopped c manifest :=
  fun faithful => ⟨(h faithful).1, fun _ => (h faithful).2⟩

/-- How a failure that stops a part of a run stops the run. -/
theorem Engine.Meets.stopped {α : Type} {g : Guard} {x : Engine α}
    {ok : α → Surroundings → Prop} (valid : Meets c g s x ok fun _ => Interrupted c) :
    Meets c g s x ok fun _ => Stopped c manifest :=
  valid.weaken (fun _ _ h => h) fun _ _ h => h.stopped

/-- No machine is recorded any more. Where one was, its stemcell is not in use any more. -/
structure MachineGone (s t : Surroundings) : Prop where
  current : t.machine.current = ""
  made : t.machine.made = s.machine.made
  stemcells : t.stemcells.records = s.stemcells.records
  pointer : t.stemcells.pointer = s.stemcells.pointer ∨ t.stemcells.pointer = ""

namespace Surroundings.Orderly

theorem vmDeleted {vm : Vm} (orderly : s.Orderly c) (recorded : s.machine.current = vm.cid)
    (deleted : VmDeleted c vm s t) (frame : Frame [.machine, .stemcells] s t) : t.Orderly c := by
  apply orderly.frame frame
  intro p touched
  simp only [List.mem_cons, List.not_mem_nil, or_false] at touched
  obtain rfl | rfl := touched
  · have machine : s.machine.Orderly c := orderly .machine
    change t.machine.Orderly c
    rw [deleted.machine]
    refine ⟨machine.unnamed, fun honest cid left => ?_, fun _ named => absurd rfl named⟩
    have there : cid ∈ (s.cloud .vm).erase vm.cid := deleted.gone honest ▸ left
    obtain ⟨other, there⟩ := Finset.mem_erase.mp there
    exact absurd ((machine.covered honest cid there).2.trans recorded) other
  · change t.stemcells.Orderly c t.ids
    rw [deleted.stemcells]
    exact (orderly.stemcells.mono frame.ids).unpoint

/-- A machine that is made where none is recorded. -/
theorem vmMade {vm : Vm} (orderly : s.Orderly c) (none : s.machine.current = "")
    (made : VmMade vm s t) (frame : Frame [.machine] s t) : t.Orderly c := by
  apply orderly.touching frame
  have machine : s.machine.Orderly c := orderly .machine
  change t.machine.Orderly c
  rw [made.machine]
  refine ⟨fun honest => Finset.mem_insert_of_mem (machine.unnamed honest),
    fun honest cid there => ?_, fun _ _ => Finset.mem_insert_self _ _⟩
  obtain rfl | old := Finset.mem_insert.mp there
  · exact ⟨fun same => made.unused (same ▸ machine.unnamed honest), rfl⟩
  · obtain ⟨named, recorded⟩ := machine.covered honest cid old
    exact absurd (recorded.trans none) named

theorem machine_present {vm : Vm} (orderly : s.Orderly c) (recorded : s.machine.current = vm.cid)
    (named : vm.cid ≠ "") : s.Runs c vm := by
  intro faithful
  change vm.cid ∈ s.machine.there
  simp [(orderly.machine faithful).there, recorded, named]

end Surroundings.Orderly

/-- Where the recorded machine is deleted no machine is left. -/
theorem Vm.deleteInStep_orderly {vm : Vm} {name : String} {reason : Failure → String}
    (orderly : s.Orderly c) (recorded : s.machine.current = vm.cid) (named : vm.cid ≠ "") :
    Meets c (.oneVm c) s (performStep stage name (skipIfGone .vmNotFound reason vm.delete))
      (fun _ t => t.Orderly c ∧ MachineGone s t ∧ Frame [.machine, .stemcells] s t)
      fun _ => Interrupted c := by
  have deletion := (vm.deleteInStep_touches stage name reason).framed
    (vm.deleteInStep_meets (c := c) (g := .oneVm c) (s := s) trivial fun _ _ => trivial)
  apply deletion.weaken
  · intro _ t gone
    obtain ⟨deleted, frame⟩ := gone
    refine ⟨orderly.vmDeleted recorded deleted frame, ⟨?_, ?_, ?_, .inr ?_⟩, frame⟩
    · rw [deleted.machine]
    · rw [deleted.machine]
    · rw [deleted.stemcells]
    · rw [deleted.stemcells]
  · intro _ t stopped faithful
    obtain ⟨kept, frame⟩ := stopped
    obtain ⟨machine, stemcells, cause⟩ := kept faithful.stores
    constructor
    · apply orderly.frame frame
      intro p touched
      simp only [List.mem_cons, List.not_mem_nil, or_false] at touched
      obtain rfl | rfl := touched
      · exact (orderly .machine).same machine frame.ids
      · exact (orderly .stemcells).same stemcells frame.ids
    · exact cause (orderly.machine_present recorded named faithful)

/-- No machine is left after runs that begin where no part has changed. -/
theorem MachineGone.after {u : Surroundings} (gone : MachineGone t u) (before : Frame [] s t) :
    MachineGone s u where
  current := gone.current
  made := by rw [gone.made, before.machine]
  stemcells := by rw [gone.stemcells, before.stemcells]
  pointer := by
    rw [← before.stemcells]
    exact gone.pointer

/-- The machine is there until the last step, and that step is the only one to change anything. -/
theorem Instance.delete_orderly {i : Instance} {timeout delay : Nat} {skipDrain : Bool}
    (orderly : s.Orderly c) (recorded : s.machine.current = i.vm.cid) (named : i.vm.cid ≠ "") :
    Meets c (.oneVm c) s ((delete timeout delay skipDrain stage).toEngine i)
      (fun _ t => t.Orderly c ∧ MachineGone s t ∧ Frame [.machine, .stemcells] s t)
      fun _ => Interrupted c := by
  apply i.delete_meets stage
  · intro t before
    have recorded' : t.machine.current = i.vm.cid := before.machine ▸ recorded
    apply (i.vm.deleteInStep_orderly (orderly.same before) recorded' named).weaken
    · intro _ u deleted r
      obtain ⟨orderly', gone, frame⟩ := deleted
      exact ⟨orderly', gone.after before, (before.weaken (by simp)).trans frame⟩
    · exact fun _ _ h => h
  · exact fun _ t frame troubled _ => ⟨orderly.same frame, troubled⟩

namespace Instances

theorem findCurrent_meets {g : Guard} {settings : Settings} : Meets c g s (findCurrent settings)
    (fun instances t => instances.map (·.vm) = s.machine.vm?.toList ∧ Frame [] s t)
    fun _ t => c.StoreFails ∧ Frame [] s t := by
  apply Meets.bind (Meets.inContext Vms.findCurrent_meets)
  intro _ t looked
  obtain ⟨rfl, frame⟩ := looked
  refine Meets.pure ⟨?_, frame⟩
  cases s.machine.vm? with
  | none => rfl
  | some vm => rfl

/-- Taking down the instances of the machines that are recorded, of which there is at most one. -/
theorem deleteEach_orderly {instances : List Instance} {context : Instance → String}
    {timeout delay : Nat} {skipDrain : Bool} (orderly : s.Orderly c)
    (recorded : instances.map (·.vm) = s.machine.vm?.toList) :
    Meets c (.oneVm c) s (forEach instances fun i => do
      discard <| within (context i) ((Instance.delete timeout delay skipDrain stage).toEngine i))
      (fun _ t => t.Orderly c ∧ MachineGone s t ∧ Frame [.machine, .stemcells] s t)
      fun _ => Interrupted c := by
  by_cases none : s.machine.current = ""
  · have nothing : instances = [] := by
      simpa [MachinePart.vm?, none] using recorded
    rw [nothing]
    exact Meets.pure ⟨orderly, ⟨none, rfl, rfl, .inl rfl⟩, Frame.refl _ s⟩
  · obtain ⟨i, rfl, machine⟩ : ∃ i, instances = [i] ∧ i.vm = ⟨s.machine.current⟩ := by
      simpa [MachinePart.vm?, none, List.map_eq_singleton_iff] using recorded
    have cid : s.machine.current = i.vm.cid := by rw [machine]
    refine Meets.bind (Meets.discard (Meets.inContext (Instance.delete_orderly orderly cid ?_)))
      fun _ _ h => Meets.pure h
    rwa [← cid]

theorem deleteAll_orderly {settings : Settings} {timeout delay : Nat} {skipDrain : Bool}
    (orderly : s.Orderly c) :
    Meets c (.oneVm c) s (deleteAll settings timeout delay skipDrain stage)
      (fun _ t => t.Orderly c ∧ MachineGone s t ∧ Frame [.machine, .stemcells] s t)
      fun _ => Interrupted c := by
  unfold deleteAll
  apply Meets.bind findCurrent_meets.interrupted
  intro instances t looked
  obtain ⟨recorded, before⟩ := looked
  rw [← before.machine] at recorded
  refine (deleteEach_orderly (orderly.same before) recorded).weaken ?_ fun _ _ h => h
  intro _ u deleted
  obtain ⟨orderly', gone, frame⟩ := deleted
  exact ⟨orderly', gone.after before, (before.weaken (by simp)).trans frame⟩

end Instances

/-- A machine was made in this run, from a recorded stemcell that is current now. -/
structure VmPlaced (vm : Vm) (stemcell : StemcellRecord) (s t : Surroundings) : Prop where
  current : t.machine.current = vm.cid
  there : vm.cid ∈ t.machine.there
  made : t.machine.made = s.machine.made ++ [vm.cid]
  stemcell : t.stemcells.current = some stemcell

namespace VmPlaced

variable {u : Surroundings} {vm : Vm}

theorem ofMade (made : VmMade vm s t) (machine : u.machine = t.machine)
    (promoted : u.stemcells.current = some stemcell) : VmPlaced vm stemcell s u where
  current := by rw [machine, made.machine]
  there := by
    rw [machine, made.machine]
    exact Finset.mem_insert_self _ _
  made := by rw [machine, made.machine]
  stemcell := promoted

theorem later (placed : VmPlaced vm stemcell s t) (machine : u.machine = t.machine)
    (stemcells : u.stemcells = t.stemcells) : VmPlaced vm stemcell s u where
  current := by rw [machine, placed.current]
  there := by
    rw [machine]
    exact placed.there
  made := by rw [machine, placed.made]
  stemcell := by rw [stemcells, placed.stemcell]

end VmPlaced

/-- Nothing but what the manifest names can be missing when a machine is made. -/
theorem Vms.create_orderly (orderly : s.Orderly c) (none : s.machine.current = "")
    (recorded : stemcell ∈ s.stemcells.records) :
    Meets c (.oneVm c) s (create stemcell manifest)
      (fun vm t => t.Orderly c ∧ VmMade vm s t ∧ Frame [.machine] s t)
      fun _ => Stopped c manifest := by
  have alone (m : Surroundings) (same : m.machine = s.machine) (faithful : c.Faithful) :
      m.cloud .vm = ∅ := by
    change m.machine.there = ∅
    simp [same, (orderly.machine faithful).there, none]
  have creation := (create_touches stemcell manifest).framed (create_meets (c := c)
    (g := .oneVm c) (s := s) (fun m _ _ _ _ _ => alone m) fun _ _ => trivial)
  apply creation.weaken
  · intro vm t created
    obtain ⟨made, frame⟩ := created
    exact ⟨orderly.vmMade none made frame, made, frame⟩
  · intro _ t stopped faithful
    obtain ⟨failed, frame⟩ := stopped
    obtain ⟨vm, made, troubled, -⟩ | ⟨same, cause⟩ := failed faithful.stores
    · exact ⟨orderly.vmMade none made frame, fun _ => troubled⟩
    · refine ⟨orderly.touching frame ((orderly .machine).same same frame.ids), fun resolves => ?_⟩
      exact cause resolves (orderly.stemcells.there recorded faithful) fun disk current =>
        orderly.disks.there (Shelf.current_mem current) faithful

theorem StemcellRecord.promote_orderly (orderly : s.Orderly c)
    (found : s.doc.findStemcell stemcell.name stemcell.version = some stemcell) :
    Meets c (.oneVm c) s stemcell.promote
      (fun _ t => t.Orderly c ∧ t.stemcells.current = some stemcell ∧
        t.stemcells.records = s.stemcells.records ∧ Frame [.stemcells] s t)
      fun _ => Interrupted c := by
  have recorded : stemcell ∈ s.stemcells.records := (Document.findStemcell_eq found).1
  have promotion := stemcell.promote_touches.oneVm (by decide) (promote_meets (c := c) (s := s))
  apply promotion.weaken
  · intro _ t pointed
    obtain ⟨⟨record, same, stemcells⟩, frame⟩ := pointed
    cases found.symm.trans same
    refine ⟨orderly.touching frame ?_, ?_, by rw [stemcells], frame⟩
    · change t.stemcells.Orderly c t.ids
      rw [stemcells]
      exact (orderly.stemcells.mono frame.ids).pointTo recorded
    · rw [stemcells]
      exact orderly.stemcells.regular.current_pointTo recorded
  · rintro _ t ⟨⟨-, fails | absent⟩, -⟩
    · exact .ofStoreFails fails
    · cases found.symm.trans absent

theorem Instance.awaitReady_meets {g : Guard} {i : Instance} {registry : RegistryConfig}
    {tunnel : SshTunnelConfig} :
    Meets c g s ((awaitReady registry tunnel stage).toEngine i)
      (fun r t => r.2.vm = i.vm ∧ r.2.jobName = i.jobName ∧ Frame [] s t)
      fun _ t => Frame [] s t ∧ c.Troubled := by
  simp only [awaitReady, enter, Stateful.toEngine_bind, Stateful.toEngine_get, pure_bind,
    Stateful.toEngine_modify, Stateful.toEngine_engine]
  apply Meets.bind ((Quiet.runStep (awaitNewAgent_quiet _ registry tunnel)).meets _ _ _)
  exact fun _ _ frame => Meets.pure ⟨rfl, rfl, frame⟩

/-- The machine, its stemcell and its disk, in this order. -/
theorem Instances.create_orderly {settings : Settings} {jobName : String} {index : UInt32}
    {registry : RegistryConfig} {tunnel : SshTunnelConfig} (orderly : s.Orderly c)
    (none : s.machine.current = "") (named : manifest.jobName = jobName)
    (found : s.doc.findStemcell stemcell.name stemcell.version = some stemcell) :
    Meets c (.oneVm c) s (create settings jobName index manifest stemcell registry tunnel stage)
      (fun _ t => t.Orderly c ∧ ∃ vm, VmPlaced vm stemcell s t ∧
        t.stemcells.records = s.stemcells.records ∧
        ∃ pool, manifest.diskPool manifest.jobName = .ok pool ∧ DiskConverged vm pool s t)
      fun _ => Stopped c manifest := by
  subst named
  unfold create
  have recorded : stemcell ∈ s.stemcells.records := (Document.findStemcell_eq found).1
  refine Meets.bind (Q := fun vm t => t.Orderly c ∧ VmPlaced vm stemcell s t ∧
    t.stemcells.records = s.stemcells.records ∧ Frame [.machine, .stemcells] s t)
    (Meets.runStep ?_) ?_
  · apply Meets.bind (Meets.inContext (Vms.create_orderly orderly none recorded))
    intro vm t created
    obtain ⟨orderly₁, made, frame₁⟩ := created
    have stemcells := frame₁.stemcells_of (by decide)
    have found₁ : t.doc.findStemcell stemcell.name stemcell.version = some stemcell :=
      (Surroundings.findStemcell_congr stemcells).trans found
    apply Meets.bind (Meets.inContext (StemcellRecord.promote_orderly orderly₁ found₁).stopped)
    intro _ u pointed
    obtain ⟨orderly₂, promoted, records, frame₂⟩ := pointed
    have placed := VmPlaced.ofMade made (frame₂.machine_of (by decide)) promoted
    refine Meets.pure ⟨orderly₂, placed, records.trans (congrArg _ stemcells), ?_⟩
    exact (frame₁.weaken (by simp)).trans (frame₂.weaken (by simp))
  intro vm t created
  obtain ⟨orderly₁, placed, records, frame₁⟩ := created
  apply Meets.seq (Meets.inContext Instance.awaitReady_meets)
  · exact fun _ _ stopped _ => ⟨orderly₁.same stopped.1, fun _ => stopped.2⟩
  rintro ⟨_, i⟩ u ⟨rfl, named, frame₂⟩
  have orderly₂ := orderly₁.same frame₂
  have runs : u.Runs c i.vm := Surroundings.Runs.frame (fun _ => placed.there) frame₂ (by decide)
  apply Meets.seq (Meets.inContext (Instance.updateDisks_orderly manifest orderly₂ runs))
  · intro _ v failed faithful
    obtain ⟨orderly₃, cause⟩ := failed faithful
    rw [named] at cause
    exact ⟨orderly₃, fun resolves => cause resolves.diskPool⟩
  intro _ v updated
  obtain ⟨orderly₃, frame₃, pool, known, converged⟩ := updated
  rw [named] at known
  have machine := (frame₃.machine_of (by decide)).trans frame₂.machine
  have stemcells := (frame₃.stemcells_of (by decide)).trans frame₂.stemcells
  have disks : u.disks = s.disks := frame₂.disks.trans (frame₁.disks_of (by decide))
  refine Meets.pure ⟨orderly₃, i.vm, placed.later machine stemcells, ?_, pool, known,
    converged.congr disks rfl rfl⟩
  rw [stemcells, records]

end Reconciler
