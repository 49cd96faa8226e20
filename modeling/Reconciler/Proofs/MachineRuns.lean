import Reconciler.Proofs.Deletions

/-!
Runs of what is done with the machine, each as a change of the machine of a workspace. A machine is
recorded before anything else can fail, and deleting it takes the promotion of its stemcell along.
-/
namespace Reconciler

open Engine Repository

variable {c : Conduct} {g : Guard} {s t : Surroundings}

/-- One job of one instance, and everything that it names is there. -/
structure Manifest.Resolves (manifest : Manifest) : Prop where
  job : ∃ job, manifest.singleJob = .ok job
  networks : ∃ networks, manifest.networkInterfaces manifest.jobName = .ok networks
  resourcePool : ∃ pool, manifest.resourcePool manifest.jobName = .ok pool
  diskPool : ∃ pool, manifest.diskPool manifest.jobName = .ok pool

/-- The machine that is recorded. -/
def MachinePart.vm? (m : MachinePart) : Option Vm :=
  if m.current.isEmpty then none else some ⟨m.current⟩

/-- A machine was made in the cloud and recorded. -/
structure VmMade (vm : Vm) (s t : Surroundings) : Prop where
  machine : t.machine =
    { current := vm.cid
      there := insert vm.cid s.machine.there
      seen := insert vm.cid s.machine.seen
      made := s.machine.made ++ [vm.cid] }
  unused : vm.cid ∉ s.machine.seen

/-- The cloud could have been told about the machine and was not. -/
def Undescribed (calls : List Exchange) (vm : String) : Prop :=
  ∃ metadata error, error.kind ≠ .notImplemented ∧
    ⟨.cloud (.setVmMetadata vm metadata), .error error⟩ ∈ calls

/-- Why no machine was made: the manifest, something that is missing, or trouble. -/
def VmNotMade (c : Conduct) (stemcell : StemcellRecord) (manifest : Manifest)
    (s t : Surroundings) : Prop :=
  t.machine = s.machine ∧ (manifest.Resolves → stemcell.cid ∈ s.cloud .stemcell →
    (∀ disk, s.disks.current = some disk → disk.cid ∈ s.cloud .disk) → c.Troubled)

/-- A machine was deleted and forgotten, and no stemcell is in use any more. -/
structure VmDeleted (c : Conduct) (vm : Vm) (s t : Surroundings) : Prop where
  machine : t.machine = { s.machine with current := "", there := t.cloud .vm }
  gone : c.honest → t.cloud .vm = (s.cloud .vm).erase vm.cid
  stemcells : t.stemcells = { s.stemcells with pointer := "" }

/-- A machine that was not deleted is there as before. -/
structure VmNotDeleted (c : Conduct) (vm : Vm) (s t : Surroundings) : Prop where
  machine : t.machine = s.machine
  stemcells : t.stemcells = s.stemcells
  cause : vm.cid ∈ s.cloud .vm → c.Troubled

namespace Vms

theorem findCurrent_meets : Meets c g s findCurrent
    (fun found t => found = s.machine.vm? ∧ Frame [] s t)
    fun _ t => c.StoreFails ∧ Frame [] s t := by
  refine Meets.bind (Q := fun cid t => cid.map Vm.mk = s.machine.vm? ∧ Frame [] s t)
    (Meets.inContext ?_) fun _ _ h => Meets.pure h
  refine read_meets (fun t frame => ⟨?_, frame⟩) fun e lost => ⟨lost.2, .refl _ s⟩
  rw [← frame.machine]
  by_cases none : t.doc.currentVmCid = ""
  · simp [MachinePart.vm?, Surroundings.machine, none]
  · simp [MachinePart.vm?, Surroundings.machine, none]

theorem setCurrent_meets {cid : String} (saving : ∀ m doc, g m (.save doc)) :
    Meets c g s (setCurrent cid)
      (fun _ t => t.machine = { s.machine with current := cid } ∧ t.stemcells = s.stemcells)
      fun e _ => c.StoreFailure e := by
  refine update_meets (fun _ _ => saving _ _) (fun m frame => ⟨?_, ?_⟩) fun e t lost _ => lost
  · rw [Surroundings.saved_machine, frame.machine]
    rfl
  · rw [← frame.stemcells]
    rfl

/-- A machine that is there can be described, unless there is trouble. -/
theorem setVmMetadata_meets {cid : String} {metadata : List (String × String)}
    (present : cid ∈ s.cloud .vm) :
    (tryCloud (.setVmMetadata cid metadata)).Meets c.Answers g.safe
      (fun result t => t.machine = s.machine ∧ ∀ error, result = .error error →
        c.Troubled ∧ (error.kind ≠ .notImplemented → Undescribed t.calls cid)) s := by
  refine tryCloud_meets (fun deed => (deed trivial).elim) (fun answer _ => ⟨?_, nofun⟩) ?_
  · exact Part.Same.served (p := .machine) (by simp [CloudCall.part])
  · refine fun error may _ => ⟨Part.Same.failed (p := .machine) (by simp [CloudCall.part]), ?_⟩
    rintro _ ⟨⟩
    refine ⟨.ofCall may fun lacks => lacks present, fun kind => ⟨metadata, error, kind, ?_⟩⟩
    simp [Surroundings.noted]

/-- A machine can be asked for when its stemcell and its disk are there. -/
theorem not_lacks_createVm {held : Holdings} {agentId stemcell : String} {disk : Option DiskRecord}
    {properties networks env : Properties}
    (stemcellThere : stemcell ∈ held .stemcell)
    (diskThere : ∀ d, disk = some d → d.cid ∈ held .disk) :
    ¬held.Lacks (.createVm agentId stemcell properties (disk.toList.map (·.cid)) networks env) := by
  rintro (missing | ⟨cid, wanted, missing⟩)
  · exact missing stemcellThere
  · obtain ⟨d, current, rfl⟩ := List.mem_map.mp wanted
    exact missing (diskThere d (Option.mem_toList.mp current))

/-- The call that makes a machine, with the current disk as a hint. -/
theorem createVm_meets {stemcell : StemcellRecord} {manifest : Manifest} {agentId context : String}
    {properties networks env : Properties}
    (before : Frame [] s t)
    (creating : g t (.cloud (.createVm agentId stemcell.cid properties
      (s.disks.current.toList.map (·.cid)) networks env))) :
    Meets c g t (within context (cloud (.createVm agentId stemcell.cid properties
      (s.disks.current.toList.map (·.cid)) networks env)))
      (fun cid u => cid ∉ s.machine.seen ∧ u = t.served (.createVm agentId stemcell.cid properties
        (s.disks.current.toList.map (·.cid)) networks env) cid)
      fun _ u => VmNotMade c stemcell manifest s u := by
  apply Meets.inContext
  apply Meets.cloud (fun _ => creating)
  · intro cid unused
    rw [← before.machine]
    exact ⟨unused .vm cid rfl, rfl⟩
  · intro error may
    constructor
    · rw [← before.machine]
      simp [Surroundings.machine, Surroundings.noted, Exchange.made]
    · intro _ stemcellThere diskThere
      have stemcells : t.cloud .stemcell = s.cloud .stemcell :=
        congrArg Shelf.there before.stemcells
      have disks : t.cloud .disk = s.cloud .disk := congrArg Shelf.there before.disks
      rw [← stemcells] at stemcellThere
      rw [← disks] at diskThere
      exact .ofCall may (not_lacks_createVm stemcellThere diskThere)

/-- The cloud is asked for a machine once, with the machines there are as before. A machine that was
made is only given up when the cloud cannot be told about it. -/
theorem create_meets {stemcell : StemcellRecord} {manifest : Manifest}
    (creating : ∀ m agentId properties disks networks env, m.machine = s.machine →
      g m (.cloud (.createVm agentId stemcell.cid properties disks networks env)))
    (saving : ∀ m doc, g m (.save doc)) :
    Meets c g s (create stemcell manifest) (fun vm t => VmMade vm s t)
      fun _ t => ¬c.StoreFails →
        (∃ vm, VmMade vm s t ∧ c.Troubled ∧ Undescribed t.calls vm.cid) ∨
          VmNotMade c stemcell manifest s t := by
  unfold create
  refine Meets.bind (Q := fun _ t => t = s) (Meets.inContext (Meets.valid (fun _ _ => rfl) ?_)) ?_
  · intro e invalid _
    refine .inr ⟨rfl, fun resolves => ?_⟩
    obtain ⟨networks, fine⟩ := resolves.networks
    cases invalid.symm.trans fine
  intro networks t same
  subst same
  refine Meets.bind (Q := fun _ u => u = t) (Meets.inContext (Meets.valid (fun _ _ => rfl) ?_)) ?_
  · intro e invalid _
    refine .inr ⟨rfl, fun resolves => ?_⟩
    obtain ⟨pool, fine⟩ := resolves.resourcePool
    cases invalid.symm.trans fine
  intro pool s same
  subst same
  refine Meets.seq (ask_meets (Frame.refl _ s) fun t frame => ?_)
    (fun _ _ lost works => absurd lost.1 works) ?_
  · change t.disks.current = s.disks.current
    rw [frame.disks]
  intro _ t looked
  obtain ⟨rfl, before⟩ := looked
  refine Meets.bind (Q := fun _ u => Frame [] s u) (Meets.freshId fun id named new =>
    before.trans (Frame.issued named new)) fun agentId u before => ?_
  apply Meets.seq (createVm_meets before (creating u _ _ _ _ _ before.machine))
    (fun _ _ h _ => .inr h)
  rintro (cid : String) _ ⟨unused, rfl⟩
  let call := CloudCall.createVm agentId stemcell.cid pool.cloudProperties
    (s.disks.current.toList.map (·.cid)) networks pool.env
  have made (v : Surroundings)
      (machine : v.machine = { (u.served call cid).machine with current := cid }) :
      VmMade ⟨cid⟩ s v := by
    refine ⟨?_, unused⟩
    rw [machine, ← before.machine]
    simp [Surroundings.machine, Surroundings.served, Holdings.after, Holdings.everAfter, call,
      CloudCall.created, Exchange.made]
  have present : cid ∈ (u.served call cid).cloud .vm := by
    simp [Surroundings.served, Holdings.after, call, CloudCall.created]
  refine Meets.seq (Meets.inContext ((setCurrent_meets saving).weaken (fun _ _ h => h)
    fun _ _ (lost : c.StoreFailure _) => lost.2)) (fun _ _ fails works => absurd fails works) ?_
  intro _ v pointed
  obtain ⟨recorded, -⟩ := pointed
  have present' : cid ∈ v.cloud .vm := by
    rwa [show v.cloud .vm = _ from congrArg MachinePart.there recorded]
  apply Meets.bindLift (setVmMetadata_meets present')
  intro result w told
  obtain ⟨same, cause⟩ := told
  have done := made w (same.trans recorded)
  cases result with
  | ok => exact Meets.pure done
  | error error =>
    dsimp only
    obtain ⟨troubled, undescribed⟩ := cause error rfl
    split
    · exact Meets.pure done
    case isFalse kind =>
      exact Meets.throw fun _ => .inl ⟨⟨cid⟩, done, troubled, undescribed kind⟩

end Vms

/-- The step that deletes a machine. -/
theorem Vm.deleteInStep_meets {vm : Vm} {stage : Stage} {name : String} {reason : Failure → String}
    (deleting : g s (.cloud (.deleteVm vm.cid))) (saving : ∀ m doc, g m (.save doc)) :
    Meets c g s (performStep stage name (skipIfGone .vmNotFound reason vm.delete))
      (fun _ t => VmDeleted c vm s t) fun _ t => ¬c.StoreFails → VmNotDeleted c vm s t := by
  refine Meets.deletion (removal_meets (CloudCall.deleteVm_deletes _) deleting)
    (fun t shrunk erased => ?_) fun e t frame present _ => ⟨frame.machine, frame.stemcells, present⟩
  refine Meets.bind (Meets.within ((Vms.setCurrent_meets saving).weaken (fun _ _ h => h)
    fun e u lost => ⟨lost.cloudKind, fun works => absurd lost.2 works⟩)) ?_
  intro _ u deleted
  obtain ⟨machine, stemcells⟩ := deleted
  refine Meets.within (update_meets (fun _ _ => saving _ _) (fun m frame => ?_)
    fun e v fails _ => ⟨fails.cloudKind, fun works => absurd fails.2 works⟩)
  have now : (m.saved m.doc.clearCurrentStemcell).machine = { t.machine with current := "" } := by
    rw [← machine, ← frame.machine]
    exact Surroundings.saved_machine m _
  have there : m.cloud .vm = t.cloud .vm := congrArg MachinePart.there now
  refine ⟨?_, fun truly => there.trans (erased truly), ?_⟩
  · rw [now, shrunk.machine, ← there]
    rfl
  · have cleared : (m.saved m.doc.clearCurrentStemcell).stemcells =
        { m.stemcells with pointer := "" } := rfl
    rw [cleared, frame.stemcells, stemcells, shrunk.otherStemcells (by decide)]

end Reconciler
