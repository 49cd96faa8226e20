import Reconciler.Deployment.Deploy
import Reconciler.Deployment.Teardown
import Reconciler.Proofs.Quiet
import Reconciler.Proofs.Records

/-!
Which parts each function of the engine touches. Every request of a run leaves the other parts
alone, so that they are the same at any of its moments, whether it goes well or not.
-/
namespace Reconciler

variable {α β : Type}

/-- Requests that leave all but some parts alone. -/
def Guard.sparing (parts : List Part) : Guard := fun s r => ∀ p, p ∉ parts → p.Spares s r

/-- Keeps to a guard, whatever happens. -/
abbrev Engine.Heeds (g : Guard) (x : Engine α) : Prop := Keeps .any g (fun _ => True) x

/-- Leaves all but some parts alone. -/
abbrev Engine.Touches (parts : List Part) (x : Engine α) : Prop := x.Heeds (.sparing parts)

theorem Guard.sparing_cloud {parts : List Part} {call : CloudCall}
    (about : ∀ p, call.part = some p → p ∈ parts) (s : Surroundings) :
    sparing parts s (.cloud call) := fun p other same => other (about p same)

namespace Engine

variable {parts parts' : List Part} {x : Engine α} {f : α → Engine β} {stage : Stage}
  {name : String}

section Use

variable {c : Conduct} {g : Guard} {s : Surroundings}

theorem Touches.tracks (touches : x.Touches parts) :
    Meets c (.sparing parts) s x (fun _ t => Frame parts s t) fun _ t => Frame parts s t := by
  have kept := (touches s trivial).ofAny (c := c)
  refine (kept.tracks (R := Frame parts) (Frame.refl _) (fun _ _ _ => Frame.trans) ?_).weaken ?_
  · intro s r reply t answered safely
    apply Frame.ofStep answered.step
    intro p other
    by_cases quiet : r.IsQuiet
    · exact quiet.spares p s
    · exact safely quiet p other
  · intro result t h
    cases result with
    | ok a => exact h.2
    | error e => exact h.2

/-- What is known of a run, with all that it leaves as it was. -/
theorem Touches.framed {ok : α → Surroundings → Prop} {err : Failure → Surroundings → Prop}
    (touches : x.Touches parts) (valid : Meets c g s x ok err) :
    Meets c g s x (fun a t => ok a t ∧ Frame parts s t) fun e t => err e t ∧ Frame parts s t :=
  valid.and touches.tracks

/-- The same where it does not matter what a run that fails leaves as it was. -/
theorem Touches.returns {ok : α → Surroundings → Prop} {err : Failure → Surroundings → Prop}
    (touches : x.Touches parts) (valid : Meets c g s x ok err) :
    Meets c g s x (fun a t => ok a t ∧ Frame parts s t) err :=
  (touches.framed valid).weaken (fun _ _ h => h) fun _ _ h => h.1

/-- What is known under another guard holds under one that is kept to anyway. -/
theorem Heeds.under {g' : Guard} {ok : α → Surroundings → Prop}
    {err : Failure → Surroundings → Prop} (heeds : x.Heeds g) (valid : Meets c g' s x ok err) :
    Meets c g s x ok err :=
  ((heeds s trivial).ofAny.and valid).weaken (fun _ _ h => h.2) fun _ _ h => h.2

/-- A guard that is only about a part that is left alone. -/
theorem Touches.heeds {p : Part} (touches : x.Touches parts) (other : p ∉ parts)
    (about : ∀ s r, p.Spares s r → g s r) : x.Heeds g :=
  fun s _ => (touches s trivial).permit fun s r spares => about s r (spares p other)

end Use

section Rules

theorem Heeds.ofQuiet {g : Guard} (quiet : x.Quiet) : x.Heeds g :=
  fun s _ => (quiet.meets _ _ s).weaken (fun _ _ _ => trivial) fun _ _ _ => trivial

theorem Heeds.freshId {g : Guard} : Engine.freshId.Heeds g :=
  fun _ _ => Meets.freshId fun _ _ _ => trivial

/-- A call that may be made at any moment. -/
theorem tryCloud_heeds {g : Guard} {call : CloudCall} {c : Conduct} {s : Surroundings}
    (allowed : ∀ s, g s (.cloud call)) :
    (tryCloud call).Meets c.Answers g.safe (fun _ _ => True) s :=
  tryCloud_meets (fun _ => allowed s) (fun _ _ => trivial) fun _ _ _ => trivial

theorem Heeds.cloud {g : Guard} {call : CloudCall} (allowed : ∀ s, g s (.cloud call)) :
    (Engine.cloud call).Heeds g :=
  fun s _ => Meets.cloud (fun _ => allowed s) (fun _ _ => trivial) fun _ _ => trivial

theorem Heeds.agent {g : Guard} {call : AgentCall} (allowed : ∀ s, g s (.agent call)) :
    (Engine.agent call).Heeds g :=
  fun s _ => Meets.agent (fun _ => allowed s) (fun _ _ => trivial) fun _ _ => trivial

theorem Touches.weaken (touches : x.Touches parts) (more : parts ⊆ parts') : x.Touches parts' :=
  fun s _ => (touches s trivial).permit
    fun _ _ spares p other => spares p fun member => other (more member)

end Rules

end Engine

open Engine

namespace Repository

variable {g : Guard} {parts : List Part}

theorem look_heeds : look.Heeds g := fun _ _ => look_meets (fun _ _ => trivial) fun _ _ => trivial

/-- A question about the document. -/
theorem read_heeds (f : Document → α) : (do return f (← look)).Heeds g :=
  Keeps.bind look_heeds fun _ => Keeps.pure _

/-- What is saved may be saved. -/
theorem change_heeds {edit : Document → Engine (α × Document)}
    (edits : ∀ s, Meets .any g s (edit s.doc) (fun result t => g t (.save result.2))
      fun _ _ => True) : (change edit).Heeds g := by
  refine fun s _ => change_meets (fun m _ => (edits m).weaken (fun result t allowed => ?_)
    fun _ _ _ => trivial) fun _ _ => trivial
  exact ⟨allowed, trivial, fun _ _ _ _ => trivial⟩

theorem update_heeds {edit : Document → Document} (allowed : ∀ s, g s (.save (edit s.doc))) :
    (update edit).Heeds g := change_heeds fun s => Meets.pure (allowed s)

theorem tryUpdate_heeds {edit : Document → Except StateFault Document}
    (allowed : ∀ s new, edit s.doc = .ok new → g s (.save new)) : (tryUpdate edit).Heeds g := by
  refine change_heeds fun s => Meets.bind (Q := fun doc t => edit t.doc = .ok doc) ?_ ?_
  · exact Meets.consistent (fun _ edited => edited) fun _ _ => trivial
  · exact fun doc t edited => Meets.pure (allowed t doc edited)

theorem update_touches {edit : Document → Document}
    (agree : ∀ doc p, p ∉ parts → p.Agree doc (edit doc)) : (update edit).Touches parts :=
  update_heeds fun s => agree s.doc

theorem tryUpdate_touches {edit : Document → Except StateFault Document}
    (agree : ∀ doc new p, edit doc = .ok new → p ∉ parts → p.Agree doc new) :
    (tryUpdate edit).Touches parts := tryUpdate_heeds fun s new edited p => agree s.doc new p edited

theorem recordFresh_touches (make : String → α) (add : String → Document → Document)
    (agree : ∀ id doc p, p ∉ parts → Part.Agree p doc (add id doc)) :
    (change fun doc => do
      let id ← Engine.freshId
      return (make id, add id doc)).Touches parts :=
  fun _ _ => recordFresh_meets make add
    (fun m id _ _ _ _ => ⟨fun p other => agree id m.doc p other, trivial⟩)
    fun _ _ _ _ => trivial

end Repository

open Repository

namespace Disks

theorem findCurrent_heeds {g : Guard} : findCurrent.Heeds g := Keeps.within (read_heeds _)

theorem findUnused_heeds {g : Guard} : findUnused.Heeds g := by
  apply Keeps.bind (Keeps.within (read_heeds _))
  intro _
  exact Keeps.bind (Keeps.within (read_heeds _)) fun _ => Keeps.pure _

theorem setCurrent_touches (id : String) : (setCurrent id).Touches [.disks] := by
  apply tryUpdate_touches
  intro doc new p edited other
  obtain ⟨-, rfl⟩ := Document.eq_of_pointToDisk edited
  cases p <;> simp_all [Part.Agree]

theorem delete_touches (id : String) : (delete id).Touches [.disks] :=
  update_touches fun doc p other => by cases p <;> simp_all [Part.Agree, Document.removeDisk]

theorem save_touches (cid : String) (size : UInt64) (properties : Properties) :
    (save cid size properties).Touches [.disks] :=
  recordFresh_touches (fun id => (⟨id, cid, size, properties⟩ : DiskRecord))
    (fun id doc => doc.addDisk ⟨id, cid, size, properties⟩)
    fun id doc p other => by cases p <;> simp_all [Part.Agree, Document.addDisk]

end Disks

/-- A guard under which disks may be moved, pointed to and deleted at any moment. -/
structure Guard.AllowsDisks (g : Guard) : Prop where
  calling : ∀ (call : CloudCall) s, call.part = some .disks → g s (.cloud call)
  migrating : ∀ s, g s (.agent .migrateDisk)
  pointing : ∀ id, (Disks.setCurrent id).Heeds g
  forgetting : ∀ id, (Disks.delete id).Heeds g

/-- A disk of the pool may be recorded as well. -/
def Guard.AllowsPool (g : Guard) (pool : DiskPool) : Prop :=
  ∀ cid, (Disks.save cid pool.size pool.propertiesOrEmpty).Heeds g

theorem Guard.sparing_allowsDisks {parts : List Part} (member : .disks ∈ parts) :
    (sparing parts).AllowsDisks where
  calling _ s about := sparing_cloud (fun p same => by simp_all) s
  migrating _ _ _ := trivial
  pointing id := (Disks.setCurrent_touches id).weaken (by simpa)
  forgetting id := (Disks.delete_touches id).weaken (by simpa)

theorem Guard.sparing_allowsPool {parts : List Part} (member : .disks ∈ parts) (pool : DiskPool) :
    (sparing parts).AllowsPool pool :=
  fun cid => (Disks.save_touches cid pool.size _).weaken (by simpa)

namespace DiskRecord

variable {g : Guard} (disk : DiskRecord)

theorem delete_heeds (allows : g.AllowsDisks) : disk.delete.Heeds g := by
  refine Keeps.deleteThenForget (fun _ _ => tryCloud_heeds fun s => allows.calling _ s rfl) ?_
  apply Keeps.bind (Keeps.within (read_heeds _))
  intro found
  cases found with
  | none => exact Keeps.pure ()
  | some record => exact Keeps.within (allows.forgetting record.id)

theorem delete_touches : disk.delete.Touches [.disks] :=
  disk.delete_heeds (Guard.sparing_allowsDisks (by simp))

theorem deleteInStep_heeds (allows : g.AllowsDisks) (stage : Stage) (step : String) :
    (disk.deleteInStep stage step).Heeds g :=
  Keeps.discard (Keeps.step (Keeps.skipIfGone (disk.delete_heeds allows)))

theorem deleteInStep_touches (stage : Stage) (step : String) :
    (disk.deleteInStep stage step).Touches [.disks] :=
  disk.deleteInStep_heeds (Guard.sparing_allowsDisks (by simp)) stage step

end DiskRecord

namespace Disks

variable {g : Guard}

theorem create_heeds {pool : DiskPool} (allows : g.AllowsDisks) (records : g.AllowsPool pool)
    (vmCid : String) : (create pool vmCid).Heeds g := by
  refine Keeps.bind (Keeps.within (Heeds.cloud fun s => allows.calling _ s rfl)) fun cid => ?_
  exact Keeps.within (records cid)

theorem deleteUnused_heeds (allows : g.AllowsDisks) (stage : Stage) :
    (deleteUnused stage).Heeds g := by
  apply Keeps.bind (Keeps.within findUnused_heeds)
  intro unused
  exact Keeps.forEach fun disk => disk.deleteInStep_heeds allows stage _

theorem deleteUnused_touches (stage : Stage) : (deleteUnused stage).Touches [.disks] :=
  deleteUnused_heeds (Guard.sparing_allowsDisks (by simp)) stage

end Disks

namespace Stemcells

theorem setCurrent_touches (id : String) : (setCurrent id).Touches [.stemcells] := by
  apply tryUpdate_touches
  intro doc new p edited other
  obtain ⟨-, rfl⟩ := Document.eq_of_pointToStemcell edited
  cases p <;> simp_all [Part.Agree]

theorem clearCurrent_touches : clearCurrent.Touches [.stemcells] :=
  update_touches fun doc p other => by
    cases p <;> simp_all [Part.Agree, Document.clearCurrentStemcell]

theorem delete_touches (id : String) : (delete id).Touches [.stemcells] :=
  update_touches fun doc p other => by cases p <;> simp_all [Part.Agree, Document.removeStemcell]

theorem save_touches (name version cid : String) :
    (save name version cid).Touches [.stemcells] := by
  apply change_heeds
  intro s
  split
  · trivial
  · apply Meets.bind (Q := fun _ t => t.doc = s.doc) (Meets.freshId fun _ _ _ => rfl)
    intro id t same
    have agree (p : Part) (other : p ∉ [.stemcells]) :
        p.Agree t.doc (s.doc.addStemcell ⟨id, name, version, cid⟩) := by
      cases p <;> simp_all [Part.Agree, Document.addStemcell]
    exact Meets.pure agree

end Stemcells

namespace StemcellRecord

theorem promote_heeds {g : Guard} (stemcell : StemcellRecord)
    (points : ∀ id, (Stemcells.setCurrent id).Heeds g) : stemcell.promote.Heeds g := by
  apply Keeps.bind (Keeps.within (read_heeds _))
  intro found
  cases found with
  | none => exact Keeps.throw _
  | some record => exact Keeps.within (points record.id)

theorem promote_touches (stemcell : StemcellRecord) : stemcell.promote.Touches [.stemcells] :=
  stemcell.promote_heeds Stemcells.setCurrent_touches

theorem deleteInStep_heeds {g : Guard} (stemcell : StemcellRecord) (stage : Stage) (step : String)
    (deleting : ∀ s, g s (.cloud (.deleteStemcell stemcell.cid)))
    (forgets : (Stemcells.delete stemcell.id).Heeds g) :
    (stemcell.deleteInStep stage step).Heeds g := by
  refine Keeps.discard (Keeps.step (Keeps.skipIfGone ?_))
  exact Keeps.deleteThenForget (fun _ _ => tryCloud_heeds deleting) (Keeps.within forgets)

theorem deleteInStep_touches (stemcell : StemcellRecord) (stage : Stage) (step : String) :
    (stemcell.deleteInStep stage step).Touches [.stemcells] :=
  stemcell.deleteInStep_heeds stage step (Guard.sparing_cloud (by simp [CloudCall.part]))
    (Stemcells.delete_touches stemcell.id)

end StemcellRecord

namespace Stemcells

theorem upload_touches (extracted : ExtractedStemcell) (stage : Stage) :
    (upload extracted stage).Touches [.stemcells] := by
  refine Keeps.bind (Keeps.step (Keeps.bind (Keeps.within (read_heeds _)) ?_))
    fun _ => Keeps.pure _
  intro found
  cases found with
  | some record => exact Keeps.pure _
  | none =>
    refine Keeps.bind (Keeps.within (Heeds.cloud (Guard.sparing_cloud ?_))) fun cid => ?_
    · simp [CloudCall.part]
    · exact Keeps.bind (Keeps.within (save_touches _ _ cid)) fun _ => Keeps.pure _

theorem deleteUnused_touches (stage : Stage) : (deleteUnused stage).Touches [.stemcells] := by
  refine Keeps.bind (Keeps.within ?_) fun unused => ?_
  · apply Keeps.bind (Keeps.within (read_heeds _))
    intro _
    exact Keeps.bind (Keeps.within (read_heeds _)) fun _ => Keeps.pure _
  · exact Keeps.forEach fun stemcell => stemcell.deleteInStep_touches stage _

end Stemcells

namespace Releases

theorem setCurrent_touches (ids : List String) : (setCurrent ids).Touches [.releases] := by
  apply tryUpdate_touches
  intro doc new p edited other
  obtain ⟨-, rfl⟩ := Document.eq_of_pointToReleases edited
  cases p <;> simp_all [Part.Agree]

theorem save_touches (name version : String) : (save name version).Touches [.releases] :=
  recordFresh_touches (fun id => (⟨id, name, version⟩ : ReleaseRecord))
    (fun id doc => doc.addRelease ⟨id, name, version⟩)
    fun id doc p other => by cases p <;> simp_all [Part.Agree, Document.addRelease]

theorem delete_touches (id : String) : (delete id).Touches [.releases] :=
  update_touches fun doc p other => by cases p <;> simp_all [Part.Agree, Document.removeRelease]

theorem recordOne_touches (release : ReleaseRef) : (recordOne release).Touches [.releases] := by
  apply Keeps.bind (Keeps.within (read_heeds _))
  intro found
  cases found with
  | some record => exact Keeps.pure record
  | none => exact Keeps.within (save_touches _ _)

theorem recordEach_touches (releases : List ReleaseRef) :
    (recordEach releases).Touches [.releases] := by
  induction releases with
  | nil => exact Keeps.pure []
  | cons release rest ih =>
    apply Keeps.bind (recordOne_touches release)
    intro record
    exact Keeps.bind ih fun records => Keeps.pure _

theorem record_touches (releases : List ReleaseRef) : (record releases).Touches [.releases] := by
  apply Keeps.bind (recordEach_touches releases)
  intro records
  exact Keeps.bind (Keeps.within (setCurrent_touches _)) fun _ => Keeps.pure _

theorem deleteEach_touches (stage : Stage) (unused : List ReleaseRecord) :
    (forEach unused fun release => do
      let step := s!"Deleting unused release '{release.name}/{release.version}'"
      discard <| performStep stage step do
        within "Deleting release record" (delete release.id)
        return .finished).Touches [.releases] := by
  refine Keeps.forEach fun release => Keeps.discard (Keeps.step ?_)
  exact Keeps.bind (Keeps.within (delete_touches release.id)) fun _ => Keeps.pure _

theorem deleteUnused_touches (stage : Stage) : (deleteUnused stage).Touches [.releases] := by
  refine Keeps.bind ?_ (deleteEach_touches stage)
  apply Keeps.bind (Keeps.within (read_heeds _))
  intro _
  exact Keeps.bind (Keeps.within (read_heeds _)) fun _ => Keeps.pure _

end Releases

namespace Vm

variable (vm : Vm)

theorem attachDisk_heeds {g : Guard} (disk : DiskRecord)
    (attaching : ∀ s, g s (.cloud (.attachDisk vm.cid disk.cid))) : (vm.attachDisk disk).Heeds g :=
  Keeps.bind (Keeps.within (Heeds.cloud attaching)) fun _ =>
    Keeps.within (Heeds.ofQuiet (Quiet.agent (.mountDisk disk.cid) trivial))

theorem detachDisk_heeds {g : Guard} (allows : g.AllowsDisks) (disk : DiskRecord) :
    (vm.detachDisk disk).Heeds g :=
  Keeps.within (Heeds.cloud fun s => allows.calling _ s rfl)

theorem detachDisk_touches (disk : DiskRecord) : (vm.detachDisk disk).Touches [.disks] :=
  vm.detachDisk_heeds (Guard.sparing_allowsDisks (by simp)) disk

theorem delete_heeds {g : Guard} (deleting : ∀ s, g s (.cloud (.deleteVm vm.cid)))
    (forgets : Vms.clearCurrent.Heeds g) (frees : Stemcells.clearCurrent.Heeds g) :
    vm.delete.Heeds g :=
  Keeps.deleteThenForget (fun _ _ => tryCloud_heeds deleting)
    (Keeps.bind (Keeps.within forgets) fun _ => Keeps.within frees)

/-- A machine takes the promotion of its stemcell with it. -/
theorem delete_touches : vm.delete.Touches [.machine, .stemcells] := by
  apply vm.delete_heeds (Guard.sparing_cloud (by simp [CloudCall.part]))
  · exact update_touches fun doc p other => by
      cases p <;> simp_all [Part.Agree, Document.setCurrentVm]
  · exact Stemcells.clearCurrent_touches.weaken (by simp)

theorem deleteInStep_touches (stage : Stage) (name : String) (reason : Failure → String) :
    (performStep stage name (skipIfGone .vmNotFound reason vm.delete)).Touches
      [.machine, .stemcells] := Keeps.step (Keeps.skipIfGone vm.delete_touches)

end Vm

namespace Vms

theorem findCurrent_heeds {g : Guard} : findCurrent.Heeds g :=
  Keeps.bind (Keeps.within (read_heeds _)) fun _ => Keeps.pure _

theorem setCurrent_touches (cid : String) : (setCurrent cid).Touches [.machine] :=
  update_touches fun doc p other => by cases p <;> simp_all [Part.Agree, Document.setCurrentVm]

theorem create_heeds {g : Guard} (stemcell : StemcellRecord) (manifest : Manifest)
    (creating : ∀ agentId properties disks networks env s,
      g s (.cloud (.createVm agentId stemcell.cid properties disks networks env)))
    (records : ∀ cid, (setCurrent cid).Heeds g) : (create stemcell manifest).Heeds g := by
  apply Keeps.bind (Keeps.within (Keeps.valid _))
  intro networks
  apply Keeps.bind (Keeps.within (Keeps.valid _))
  intro pool
  apply Keeps.bind (Keeps.within (read_heeds _))
  intro disk
  apply Keeps.bind Heeds.freshId
  intro agentId
  apply Keeps.bind (Keeps.within (Heeds.cloud (creating _ _ _ _ _)))
  intro cid
  apply Keeps.bind (Keeps.within (records cid))
  intro _ s _
  -- the cloud is only told what it has made
  apply Meets.bindLift (Q := fun _ _ => True)
  · exact tryCloud_meets (absurd trivial) (fun _ _ => trivial) fun _ _ _ => trivial
  intro result t _
  match result with
  | .ok () => trivial
  | .error error =>
    dsimp only
    split
    · trivial
    · trivial

theorem create_touches (stemcell : StemcellRecord) (manifest : Manifest) :
    (create stemcell manifest).Touches [.machine] :=
  create_heeds stemcell manifest
    (fun _ _ _ _ _ => Guard.sparing_cloud (by simp [CloudCall.part])) setCurrent_touches

end Vms

namespace PersistentDisk

variable {g : Guard} {pool : DiskPool} (vm : Vm) (stage : Stage)

theorem create_heeds (allows : g.AllowsDisks) (records : g.AllowsPool pool) :
    (create vm stage pool).Heeds g := Keeps.step (Disks.create_heeds allows records vm.cid)

theorem create_touches (pool : DiskPool) : (create vm stage pool).Touches [.disks] :=
  create_heeds vm stage (Guard.sparing_allowsDisks (by simp))
    (Guard.sparing_allowsPool (by simp) pool)

theorem attach_heeds (allows : g.AllowsDisks) (disk : DiskRecord) :
    (attach vm stage disk).Heeds g :=
  Keeps.step (vm.attachDisk_heeds disk fun s => allows.calling _ s rfl)

theorem attach_touches (disk : DiskRecord) : (attach vm stage disk).Touches [.disks] :=
  attach_heeds vm stage (Guard.sparing_allowsDisks (by simp)) disk

theorem makeCurrent_heeds (allows : g.AllowsDisks) (disk : DiskRecord) :
    (makeCurrent disk).Heeds g := by
  apply Keeps.bind (Keeps.within (read_heeds _))
  intro found
  cases found with
  | none => exact Keeps.throw _
  | some record => exact Keeps.within (allows.pointing record.id)

theorem makeCurrent_touches (disk : DiskRecord) : (makeCurrent disk).Touches [.disks] :=
  makeCurrent_heeds (Guard.sparing_allowsDisks (by simp)) disk

theorem migrate_heeds (allows : g.AllowsDisks) (records : g.AllowsPool pool) (old : DiskRecord) :
    (migrate vm stage old pool).Heeds g := by
  apply Keeps.bind (create_heeds vm stage allows records)
  intro new
  apply Keeps.bind (attach_heeds vm stage allows new)
  intro _
  apply Keeps.bind (Keeps.step (Heeds.agent allows.migrating))
  intro _
  apply Keeps.bind (makeCurrent_heeds allows new)
  intro _
  apply Keeps.bind (Keeps.step (vm.detachDisk_heeds allows old))
  intro _
  exact Keeps.bind (old.deleteInStep_heeds allows stage _) fun _ => Keeps.pure new

theorem keepOrMigrate_heeds (allows : g.AllowsDisks) (records : g.AllowsPool pool)
    (disk : DiskRecord) : (keepOrMigrate vm stage disk pool).Heeds g := by
  apply Keeps.bind (attach_heeds vm stage allows disk)
  intro _
  split
  · exact migrate_heeds vm stage allows records disk
  · exact Keeps.pure disk

theorem createFirst_heeds (allows : g.AllowsDisks) (records : g.AllowsPool pool) :
    (createFirst vm stage pool).Heeds g := by
  apply Keeps.bind (create_heeds vm stage allows records)
  intro disk
  apply Keeps.bind (attach_heeds vm stage allows disk)
  intro _
  exact Keeps.bind (makeCurrent_heeds allows disk) fun _ => Keeps.pure disk

theorem converge_heeds (allows : g.AllowsDisks) (records : g.AllowsPool pool) :
    (converge vm stage pool).Heeds g := by
  unfold converge
  split
  · exact Keeps.pure []
  · apply Keeps.bind (Keeps.within Disks.findCurrent_heeds)
    intro found
    cases found with
    | some disk =>
      apply Keeps.bind (keepOrMigrate_heeds vm stage allows records disk)
      intro disk
      exact Keeps.bind (Disks.deleteUnused_heeds allows stage) fun _ => Keeps.pure [disk]
    | none =>
      apply Keeps.bind (createFirst_heeds vm stage allows records)
      intro disk
      exact Keeps.bind (Disks.deleteUnused_heeds allows stage) fun _ => Keeps.pure [disk]

end PersistentDisk

namespace Instance

variable (i : Instance) (stage : Stage)

/-- The disk is brought to the pool that the job of the instance resolves to. -/
theorem updateDisks_heeds {g : Guard} {manifest : Manifest} (allows : g.AllowsDisks)
    (records : ∀ pool, manifest.diskPool i.jobName = .ok pool → g.AllowsPool pool) :
    ((updateDisks manifest stage).toEngine i).Heeds g := by
  simp only [updateDisks, enter, Stateful.toEngine_bind, Stateful.toEngine_get, pure_bind,
    Stateful.toEngine_engine, bind_assoc, Stateful.toEngine_modify, Stateful.toEngine_pure]
  intro s _
  apply Meets.bind (Q := fun pool _ => manifest.diskPool i.jobName = .ok pool)
  · exact Meets.inContext (Meets.valid (fun _ known => known) fun _ _ => trivial)
  intro pool t known
  refine Keeps.bind (Keeps.within (Keeps.within ?_)) (fun disks => Keeps.pure _) t trivial
  exact PersistentDisk.converge_heeds i.vm stage allows (records pool known)

theorem updateDisks_touches (manifest : Manifest) :
    ((updateDisks manifest stage).toEngine i).Touches [.disks] :=
  i.updateDisks_heeds stage (Guard.sparing_allowsDisks (by simp)) fun pool _ =>
    Guard.sparing_allowsPool (by simp) pool

theorem delete_heeds {g : Guard} (timeout delay : Nat) (skipDrain : Bool)
    (deletes : i.vm.delete.Heeds g) :
    ((delete timeout delay skipDrain stage).toEngine i).Heeds g := by
  refine fun s _ => delete_meets i stage (fun t _ => ?_) fun _ _ _ _ => trivial
  exact (Keeps.step (Keeps.skipIfGone deletes) t trivial).weaken (fun _ _ _ _ => trivial)
    fun _ _ _ => trivial

end Instance

namespace Instances

theorem findCurrent_heeds {g : Guard} (settings : Settings) : (findCurrent settings).Heeds g :=
  Keeps.bind (Keeps.within Vms.findCurrent_heeds) fun _ => Keeps.pure _

theorem deleteAll_heeds {g : Guard} (settings : Settings) (timeout delay : Nat) (skipDrain : Bool)
    (stage : Stage) (deletes : ∀ vm : Vm, vm.delete.Heeds g) :
    (deleteAll settings timeout delay skipDrain stage).Heeds g := by
  apply Keeps.bind (findCurrent_heeds settings)
  intro instances
  exact Keeps.forEach fun i => Keeps.discard (Keeps.within
    (i.delete_heeds stage timeout delay skipDrain (deletes i.vm)))

theorem deleteAll_touches (settings : Settings) (timeout delay : Nat) (skipDrain : Bool)
    (stage : Stage) :
    (deleteAll settings timeout delay skipDrain stage).Touches [.machine, .stemcells] :=
  deleteAll_heeds settings timeout delay skipDrain stage Vm.delete_touches

theorem create_heeds {g : Guard} {manifest : Manifest} {stemcell : StemcellRecord}
    (settings : Settings) (jobName : String) (index : UInt32) (registry : RegistryConfig)
    (tunnel : SshTunnelConfig) (stage : Stage) (makes : (Vms.create stemcell manifest).Heeds g)
    (promotes : stemcell.promote.Heeds g) (allows : g.AllowsDisks)
    (records : ∀ name pool, manifest.diskPool name = .ok pool → g.AllowsPool pool) :
    (create settings jobName index manifest stemcell registry tunnel stage).Heeds g := by
  refine Keeps.bind (Keeps.step (Keeps.bind (Keeps.within makes) fun vm => ?_)) fun vm => ?_
  · apply Keeps.bind (Keeps.within promotes)
    intro _
    exact Keeps.pure vm
  · apply Keeps.bind (Keeps.within (Heeds.ofQuiet (Instance.awaitReady_quiet _ _ _ _)))
    intro r
    refine Keeps.bind (Keeps.within ?_) fun _ => Keeps.pure _
    exact r.2.updateDisks_heeds stage allows (records r.2.jobName)

theorem create_touches (settings : Settings) (jobName : String) (index : UInt32)
    (manifest : Manifest) (stemcell : StemcellRecord) (registry : RegistryConfig)
    (tunnel : SshTunnelConfig) (stage : Stage) :
    (create settings jobName index manifest stemcell registry tunnel stage).Touches
      [.machine, .stemcells, .disks] :=
  create_heeds settings jobName index registry tunnel stage
    ((Vms.create_touches stemcell manifest).weaken (by simp))
    (stemcell.promote_touches.weaken (by simp)) (Guard.sparing_allowsDisks (by simp))
    fun _ pool _ => Guard.sparing_allowsPool (by simp) pool

end Instances

theorem Deployment.cleanUp_touches (stage : Stage) :
    (cleanUp stage).Touches [.disks, .stemcells, .releases] := by
  apply Keeps.bind (Keeps.within ((Disks.deleteUnused_touches stage).weaken (by simp)))
  intro _
  apply Keeps.bind (Keeps.within ((Stemcells.deleteUnused_touches stage).weaken (by simp)))
  intro _
  exact Keeps.within ((Releases.deleteUnused_touches stage).weaken (by simp))

namespace Deployment

variable {settings : Settings} {manifest : Manifest} {extracted : ExtractedStemcell}
  {registry : RegistryConfig} {tunnel : SshTunnelConfig}

/-- What each part of a deployment keeps, all of it keeps. -/
theorem deploy_keeps {c : Conduct} {g : Guard} {P : Surroundings → Prop}
    (upload : ∀ stage, Keeps c g P (Stemcells.upload extracted stage))
    (deleteAll : ∀ stage, Keeps c g P (Instances.deleteAll settings settings.pingTimeout
      settings.pingDelay settings.skipDrain stage))
    (create : ∀ jobName stemcell stage, Keeps c g P
      (Instances.create settings jobName 0 manifest stemcell registry tunnel stage))
    (updateJobs : ∀ i stage, Keeps c g P ((Instance.updateJobs manifest stage).toEngine i))
    (record : Keeps c g P (Releases.record manifest.releases))
    (stemcells : ∀ stage, Keeps c g P (Stemcells.deleteUnused stage))
    (releases : ∀ stage, Keeps c g P (Releases.deleteUnused stage)) :
    Keeps c g P (deploy settings manifest extracted registry tunnel) := by
  apply Keeps.bind (Keeps.valid _)
  intro job
  apply Keeps.bind (Keeps.report _)
  intro _
  apply Keeps.bind (Keeps.within (upload _))
  intro stemcell
  apply Keeps.bind (Keeps.report _)
  intro _
  apply Keeps.bind (Keeps.report _)
  intro _
  apply Keeps.bind (deleteAll _)
  intro _
  apply Keeps.bind (Keeps.within (create _ _ _))
  intro r
  apply Keeps.bind (Keeps.discard (updateJobs _ _))
  intro _
  apply Keeps.bind (Keeps.discard (Keeps.within record))
  intro _
  apply Keeps.bind (stemcells _)
  intro _
  apply Keeps.bind (releases _)
  intro _
  exact Keeps.report _

theorem deploy_touches (settings : Settings) (manifest : Manifest)
    (extracted : ExtractedStemcell) (registry : RegistryConfig) (tunnel : SshTunnelConfig) :
    (deploy settings manifest extracted registry tunnel).Touches
      [.machine, .stemcells, .disks, .releases] := by
  apply deploy_keeps
  case upload => exact fun _ => (Stemcells.upload_touches _ _).weaken (by simp)
  case deleteAll => exact fun _ => (Instances.deleteAll_touches _ _ _ _ _).weaken (by simp)
  case create => exact fun _ _ _ => (Instances.create_touches _ _ _ _ _ _ _ _).weaken (by simp)
  case updateJobs => exact fun _ _ => Heeds.ofQuiet (Instance.updateJobs_quiet _ _ _)
  case record => exact (Releases.record_touches _).weaken (by simp)
  case stemcells => exact fun _ => (Stemcells.deleteUnused_touches _).weaken (by simp)
  case releases => exact fun _ => (Releases.deleteUnused_touches _).weaken (by simp)

end Deployment

end Reconciler
