import Reconciler.Proofs.Convergence
import Reconciler.Proofs.Directors

/-!
Deploying the same again. A deployment that returned has left everything but the machine as its
manifest asks for it, so that the next one finds its stemcell, its disk and its releases recorded:
it replaces the machine and nothing else, and what it records is what was recorded.
-/
namespace Reconciler

open Engine Repository Surroundings

/-- Makes or deletes a stemcell or a disk, or moves data from one disk to another. -/
def Request.Replaces : Request → Prop
  | .cloud (.createStemcell ..) | .cloud (.deleteStemcell _) | .cloud (.createDisk ..)
  | .cloud (.deleteDisk _) | .cloud (.detachDisk ..) | .agent .migrateDisk => True
  | _ => False

theorem Request.IsQuiet.not_replaces {r : Request} (quiet : r.IsQuiet) : ¬r.Replaces := by
  cases r with
  | cloud call => cases call <;> first | exact id | exact quiet.elim
  | agent call => cases call <;> first | exact id | exact quiet.elim
  | _ => exact id

/-- Documents with the same records. -/
structure Document.SameRecords (doc new : Document) : Prop where
  disks : new.disks = doc.disks
  stemcells : new.stemcells = doc.stemcells
  releases : new.releases = doc.releases

theorem Document.SameRecords.trans {a b c : Document} (first : a.SameRecords b)
    (second : b.SameRecords c) : a.SameRecords c :=
  ⟨second.disks.trans first.disks, second.stemcells.trans first.stemcells,
    second.releases.trans first.releases⟩

/-- Nothing is replaced, and what is saved has the records that were there. -/
structure Guard.Tidy (s : Surroundings) (r : Request) : Prop where
  keeps : ¬r.Replaces
  records : ∀ doc, r = .save doc → s.doc.SameRecords doc

theorem Guard.Tidy.cloud {call : CloudCall} (keeps : ¬Request.Replaces (.cloud call))
    (s : Surroundings) : Tidy s (.cloud call) := ⟨keeps, nofun⟩

theorem Guard.Tidy.quiet {s : Surroundings} {r : Request} (quiet : r.IsQuiet) : Tidy s r where
  keeps := quiet.not_replaces
  records := by
    rintro _ rfl
    exact quiet.elim

theorem Guard.Tidy.save {s : Surroundings} {doc : Document} (same : s.doc.SameRecords doc) :
    Tidy s (.save doc) where
  keeps := id
  records := by
    rintro _ ⟨⟩
    exact same

/-- So far nothing was replaced, and the records are those of a document. -/
structure Surroundings.TidySince (doc : Document) (s : Surroundings) : Prop where
  same : doc.SameRecords s.doc
  calls : ∀ e ∈ s.calls, ¬e.request.Replaces ∧
    ∀ new, e.request = .save new → doc.SameRecords new

theorem Surroundings.TidySince.step {doc : Document} {s t : Surroundings} {r : Request}
    (tidy : s.TidySince doc) (guarded : ¬r.IsQuiet → Guard.Tidy s r) (step : s.Step r t) :
    t.TidySince doc := by
  have allowed : Guard.Tidy s r := by
    by_cases quiet : r.IsQuiet
    · exact .quiet quiet
    · exact guarded quiet
  have more (e : Exchange) (asked : e.request = r) : ∀ f ∈ s.calls ++ [e],
      ¬f.request.Replaces ∧ ∀ new, f.request = .save new → doc.SameRecords new := by
    intro f member
    obtain old | last := List.mem_append.mp member
    · exact tidy.calls f old
    · rw [List.mem_singleton.mp last, asked]
      exact ⟨allowed.keeps, fun new saves => tidy.same.trans (allowed.records new saves)⟩
  cases step with
  | same => exact tidy
  | told => exact ⟨tidy.same, more _ rfl⟩
  | served => exact ⟨tidy.same, more _ rfl⟩
  | refused => exact ⟨tidy.same, more _ rfl⟩
  | loaded => exact ⟨⟨tidy.same.disks, tidy.same.stemcells, tidy.same.releases⟩, tidy.calls⟩
  | saved => exact ⟨tidy.same.trans (allowed.records _ rfl), more _ rfl⟩
  | unsaved => exact ⟨tidy.same, more _ rfl⟩
  | issued => exact ⟨tidy.same, tidy.calls⟩

variable {s t u : Surroundings} {manifest : Manifest} {extracted : ExtractedStemcell} {vm : Vm}
  {stage : Stage} {pool : DiskPool}

theorem Vm.delete_tidy (vm : Vm) : vm.delete.Heeds Guard.Tidy :=
  vm.delete_heeds (.cloud id) (update_heeds fun _ => .save ⟨rfl, rfl, rfl⟩)
    (update_heeds fun _ => .save ⟨rfl, rfl, rfl⟩)

theorem Vm.attachDisk_tidy (vm : Vm) (disk : DiskRecord) : (vm.attachDisk disk).Heeds Guard.Tidy :=
  vm.attachDisk_heeds disk (.cloud id)

theorem Vms.create_tidy (stemcell : StemcellRecord) (manifest : Manifest) :
    (create stemcell manifest).Heeds Guard.Tidy :=
  create_heeds stemcell manifest (fun _ _ _ _ _ => .cloud id)
    fun _ => update_heeds fun _ => .save ⟨rfl, rfl, rfl⟩

theorem StemcellRecord.promote_tidy (stemcell : StemcellRecord) :
    stemcell.promote.Heeds Guard.Tidy := by
  refine stemcell.promote_heeds fun id => tryUpdate_heeds fun s new edited => ?_
  obtain ⟨-, rfl⟩ := Document.eq_of_pointToStemcell edited
  exact .save ⟨rfl, rfl, rfl⟩

/-- A sweep that finds nothing to delete. -/
theorem Engine.sweep_nothing {α : Type} {g : Guard} {unused : Engine (List α)}
    {action : α → Engine Unit}
    (found : Meets .any g s unused (fun items t => items = [] ∧ Frame [] s t) fun _ _ => True) :
    Meets .any g s (unused >>= fun items => forEach items action) (fun _ t => Frame [] s t)
      fun _ _ => True := by
  apply Meets.bind found
  rintro _ t ⟨rfl, frame⟩
  exact Meets.pure frame

/-- Nothing is unused where all that is recorded is current. -/
theorem Shelf.nothing_unused {ρ : Type} [Recorded ρ] {d : Shelf ρ} {record : ρ}
    (alone : d.records = [record]) (current : d.current = some record) :
    d.records.filter (fun r => d.current.all (Recorded.recordId · != Recorded.recordId r)) =
      [] := by
  simp [alone, current]

theorem Disks.deleteUnused_nothing {g : Guard} {disk : DiskRecord}
    (alone : s.disks.records = [disk]) (current : s.disks.current = some disk) :
    Meets .any g s (deleteUnused stage) (fun _ t => Frame [] s t) fun _ _ => True :=
  Engine.sweep_nothing (Meets.inContext (findUnused_meets.weaken
    (fun _ _ h => ⟨h.1.trans (Shelf.nothing_unused alone current), h.2⟩) fun _ _ _ => trivial))

theorem Stemcells.deleteUnused_nothing {g : Guard} {stemcell : StemcellRecord}
    (alone : s.stemcells.records = [stemcell]) (current : s.stemcells.current = some stemcell) :
    Meets .any g s (deleteUnused stage) (fun _ t => Frame [] s t) fun _ _ => True :=
  Engine.sweep_nothing (Meets.inContext (findUnused_meets.weaken
    (fun _ _ h => ⟨h.1.trans (Shelf.nothing_unused alone current), h.2⟩) fun _ _ _ => trivial))

namespace Releases

theorem deleteUnused_nothing {g : Guard} (current : s.doc.currentReleases = s.doc.releases) :
    Meets .any g s (deleteUnused stage) (fun _ t => Frame [] s t) fun _ _ => True := by
  refine Engine.sweep_nothing (findUnused_meets.weaken (fun unused t h => ⟨?_, h.2⟩)
    fun _ _ _ => trivial)
  rw [h.1, current, List.filter_eq_nil_iff]
  intro record recorded
  simpa using ⟨record, recorded, rfl⟩

theorem recordOne_found {g : Guard} {release : ReleaseRef} {record : ReleaseRecord}
    (found : s.doc.findRelease release.name release.version = some record) :
    Meets .any g s (recordOne release) (fun r t => r = record ∧ Frame [] s t)
      fun _ _ => True := by
  unfold recordOne
  refine Meets.seq (ask_meets (Frame.refl _ s) fun t frame => ?_) (fun _ _ _ => trivial) ?_
  · exact findRelease_congr frame.releases
  · rintro _ t ⟨rfl, frame⟩
    rw [found]
    exact Meets.pure ⟨rfl, frame⟩

/-- Releases that are recorded are only looked up. -/
theorem recordEach_found {g : Guard} {releases : List ReleaseRef} {records : List ReleaseRecord}
    (finds : s.doc.Finds releases records) :
    Meets .any g s (recordEach releases) (fun rs t => rs = records ∧ Frame [] s t)
      fun _ _ => True := by
  induction releases generalizing records s with
  | nil => exact Meets.pure ⟨(List.map_eq_nil_iff.mp finds).symm, Frame.refl _ s⟩
  | cons release rest ih =>
    obtain ⟨record, others, rfl, found, finds⟩ := List.map_eq_cons_iff.mp finds
    have finds' : s.doc.Finds rest others := finds
    apply Meets.bind (recordOne_found found.symm)
    rintro record t ⟨rfl, frame⟩
    apply Meets.bind (ih (finds'.congr frame.releases))
    rintro others u ⟨rfl, later⟩
    exact Meets.pure ⟨rfl, frame.trans later⟩

/-- The pointers are set again to where they point. -/
theorem record_settled {releases : List ReleaseRef} (done : ReleasesRecorded releases s) :
    Meets .any Guard.Tidy s (record releases) (fun _ t => t.releases = s.releases)
      fun _ _ => True := by
  obtain ⟨records, finds, pointers⟩ := done.found
  unfold record
  apply Meets.bind (recordEach_found finds)
  rintro records t ⟨rfl, frame⟩
  refine Meets.bind (Q := fun _ u => u.releases = s.releases) (Meets.inContext
    (accepted_meets (fun m later => ?_) fun _ _ _ _ => trivial)) fun _ _ h => Meets.pure h
  have releases := (frame.trans later).releases
  have finds' := finds.congr releases
  refine ⟨_, Document.pointToReleases_eq fun id listed => ?_, .save ⟨rfl, rfl, rfl⟩, ?_⟩
  · obtain ⟨record, found, same⟩ := List.mem_map.mp listed
    exact ⟨record, finds'.member found, same⟩
  · have kept := (congrArg ReleasePart.pointers releases).trans pointers
    rw [saved_releases, ← releases]
    exact congrArg (ReleasePart.mk _) kept.symm

end Releases

/-- An upload that finds the stemcell makes none. -/
theorem Stemcells.upload_found {g : Guard} {record : StemcellRecord}
    (found : s.doc.findStemcell extracted.manifest.name extracted.manifest.version = some record) :
    Meets .any g s (upload extracted stage) (fun r t => r = record ∧ Frame [] s t)
      fun _ _ => True := by
  unfold upload
  refine Meets.bind (Q := fun result t => result.1 = record ∧ Frame [] s t) (Meets.step ?_)
    fun _ _ h => Meets.pure h
  refine Meets.seq (ask_meets (Frame.refl _ s) fun t frame => ?_) (fun _ _ _ => trivial) ?_
  · exact findStemcell_congr frame.stemcells
  · rintro _ t ⟨rfl, frame⟩
    rw [found]
    exact Meets.pure ⟨rfl, frame⟩

/-- The only disk is current and is what the pool asks for, if it asks for one. -/
def Surroundings.HasDisk (pool : DiskPool) (s : Surroundings) : Prop :=
  pool.size ≠ 0 → ∃ disk, s.disks.records = [disk] ∧ s.disks.current = some disk ∧ disk.Fits pool

/-- A disk that fits stays, as the properties of the pool are known. -/
theorem DiskRecord.Fits.keeps {disk : DiskRecord} (fits : disk.Fits pool)
    (known : pool.cloudProperties = some pool.propertiesOrEmpty) :
    disk.needsMigration pool.size pool.cloudProperties = false := by
  rw [known, needsMigration, fits.size, fits.properties]
  simp

/-- The disk that is there is attached again, and nothing else is done. -/
theorem PersistentDisk.converge_tidy (has : s.HasDisk pool)
    (known : pool.cloudProperties = some pool.propertiesOrEmpty) :
    Meets .any Guard.Tidy s (converge vm stage pool) (fun _ _ => True) fun _ _ => True := by
  unfold converge
  split
  case isTrue => exact Meets.pure trivial
  case isFalse some =>
    obtain ⟨disk, alone, current, fits⟩ := has some
    apply Meets.seq (Meets.inContext Disks.findCurrent_meets) (fun _ _ _ => trivial)
    rintro _ t ⟨rfl, frame⟩
    rw [current]
    refine Meets.bind (Q := fun _ u => u.disks = s.disks) ?_ fun _ u disks => ?_
    · have attached : Meets .any .none t (attach vm stage disk) (fun _ u => u.disks = t.disks) _ :=
        Meets.runStep ((vm.attachDisk_meets trivial).weaken (fun _ _ h => h.1) fun _ _ _ => trivial)
      apply Meets.bind (Heeds.under (Keeps.step (vm.attachDisk_tidy disk)) attached)
      intro _ u disks
      rw [fits.keeps known]
      exact Meets.pure (disks.trans frame.disks)
    · rw [← disks] at alone current
      exact Meets.bind (Disks.deleteUnused_nothing alone current) fun _ _ _ => Meets.pure trivial

theorem Instance.updateDisks_tidy {i : Instance} (has : s.HasDisk pool)
    (resolved : manifest.diskPool i.jobName = .ok pool) :
    Meets .any Guard.Tidy s ((updateDisks manifest stage).toEngine i) (fun _ _ => True)
      fun _ _ => True := by
  simp only [updateDisks, enter, Stateful.toEngine_bind, Stateful.toEngine_get, pure_bind,
    Stateful.toEngine_engine, bind_assoc, Stateful.toEngine_modify, Stateful.toEngine_pure]
  refine Meets.bind (Q := fun found t => found = pool ∧ t = s)
    (Meets.inContext (Meets.valid (fun found same => ⟨?_, rfl⟩) fun _ _ => trivial)) ?_
  · cases resolved.symm.trans same
    rfl
  · rintro _ _ ⟨rfl, rfl⟩
    have properties := Manifest.diskPool_properties resolved
    exact Meets.bind (Meets.inContext (Meets.inContext
      (PersistentDisk.converge_tidy has properties))) fun _ _ _ => Meets.pure trivial

/-- A new machine from the stemcell that is there, with the disk that is there. -/
theorem Instances.create_tidy {settings : Settings} {jobName : String} {index : UInt32}
    {stemcell : StemcellRecord} {registry : RegistryConfig} {tunnel : SshTunnelConfig}
    (has : s.HasDisk pool) (resolved : manifest.diskPool jobName = .ok pool) :
    Meets .any Guard.Tidy s
      (create settings jobName index manifest stemcell registry tunnel stage)
      (fun _ _ => True) fun _ _ => True := by
  have creating := (Vms.create_touches stemcell manifest).framed
    (Vms.create_tidy stemcell manifest s trivial)
  refine Meets.bind (Q := fun _ t => t.disks = s.disks) (Meets.runStep ?_) fun vm t disks => ?_
  · apply Meets.seq (Meets.inContext creating) (fun _ _ _ => trivial)
    intro vm t created
    have promoting := stemcell.promote_touches.framed (stemcell.promote_tidy t trivial)
    apply Meets.seq (Meets.inContext promoting) (fun _ _ _ => trivial)
    intro _ u promoted
    exact Meets.pure ((promoted.2.disks_of (by decide)).trans (created.2.disks_of (by decide)))
  · apply Meets.seq (Meets.inContext Instance.awaitReady_meets) (fun _ _ _ => trivial)
    rintro ⟨_, i⟩ u ⟨-, rfl, frame⟩
    have has' : u.HasDisk pool := by
      rw [HasDisk, frame.disks, disks]
      exact has
    exact Meets.bind (Meets.inContext (Instance.updateDisks_tidy has' resolved))
      fun _ _ _ => Meets.pure trivial

/-- What a deployment that returned has left but for its machine. -/
structure Surroundings.Settled (manifest : Manifest) (extracted : ExtractedStemcell)
    (s : Surroundings) : Prop where
  stemcell : ∃ record, s.stemcells.records = [record] ∧ s.stemcells.current = some record ∧
    record.name = extracted.manifest.name ∧ record.version = extracted.manifest.version
  releases : ReleasesRecorded manifest.releases s
  current : s.doc.currentReleases = s.doc.releases
  disk : ∃ job pool, manifest.singleJob = .ok job ∧ manifest.diskPool job.name = .ok pool ∧
    s.HasDisk pool

theorem Deployed.settled (deployed : Deployed manifest extracted s t) :
    t.Settled manifest extracted where
  stemcell := deployed.stemcell
  releases := deployed.recorded
  current := deployed.releases.current
  disk := by
    obtain ⟨job, pool, single, resolved, converged⟩ := deployed.disk
    refine ⟨job, pool, single, resolved, fun some => ?_⟩
    rw [DiskConverged, if_neg some] at converged
    obtain ⟨disk, alone, placed⟩ := converged
    exact ⟨disk, alone, placed.current, placed.fits⟩

theorem Surroundings.Settled.begin (settled : s.Settled manifest extracted) :
    s.begin.Settled manifest extracted :=
  ⟨settled.stemcell, ⟨settled.releases.regular, settled.releases.found⟩, settled.current,
    settled.disk⟩

namespace Deployment

variable {settings : Settings} {registry : RegistryConfig} {tunnel : SshTunnelConfig}

/-- From the moment when no machine is recorded, with all that the new one needs at hand. -/
theorem rebuild_tidy {job : Job} {stemcell : StemcellRecord} (orderly : s.Orderly .any)
    (none : s.machine.current = "") (single : manifest.singleJob = .ok job)
    (alone : s.stemcells.records = [stemcell]) (releases : ReleasesRecorded manifest.releases s)
    (current : s.doc.currentReleases = s.doc.releases)
    (resolved : manifest.diskPool job.name = .ok pool) (has : s.HasDisk pool) :
    Meets .any Guard.Tidy s (do
      let (i, _) ← within s!"Creating instance '{job.name}/0'"
        (Instances.create settings job.name 0 manifest stemcell registry tunnel stage)
      discard <| (Instance.updateJobs manifest stage).toEngine i
      discard <| within "Recording deployed releases" (Releases.record manifest.releases)
      Stemcells.deleteUnused stage
      Releases.deleteUnused stage
      stage.finish)
      (fun _ _ => True) fun _ _ => True := by
  have named := Manifest.jobName_of_singleJob single
  have found : s.doc.findStemcell stemcell.name stemcell.version = some stemcell := by
    change s.stemcells.records.find? _ = _
    simp [alone]
  have creating := (Instances.create_touches settings job.name 0 manifest stemcell registry tunnel
    stage).framed ((Instances.create_tidy has resolved).and
      (Instances.create_orderly orderly none named found))
  apply Meets.seq (Meets.inContext creating) (fun _ _ _ => trivial)
  rintro ⟨i, -⟩ t₁ ⟨⟨-, -, vm, placed, records, -⟩, frame₁⟩
  apply Meets.seq (Q := fun _ t => Frame [] t₁ t)
    (Meets.discard ((i.updateJobs_quiet stage manifest).meets _ _ t₁)) (fun _ _ _ => trivial)
  intro _ t₂ frame₂
  have same₂ : t₂.releases = s.releases := frame₂.releases.trans (frame₁.releases_of (by decide))
  have ids := frame₁.ids.trans frame₂.ids
  have recording := (Releases.record_touches manifest.releases).framed
    (Releases.record_settled (releases.congr same₂ ids))
  apply Meets.seq (Q := fun _ t => t.releases = t₂.releases ∧ Frame [.releases] t₂ t)
    (Meets.discard (Meets.inContext recording)) (fun _ _ _ => trivial)
  intro _ t₃ recorded
  obtain ⟨same₃, frame₃⟩ := recorded
  have stemcells : t₃.stemcells = t₁.stemcells :=
    (frame₃.stemcells_of (by decide)).trans frame₂.stemcells
  have alone₃ : t₃.stemcells.records = [stemcell] := by rw [stemcells, records, alone]
  have current₃ : t₃.stemcells.current = some stemcell := by rw [stemcells, placed.stemcell]
  apply Meets.bind (Stemcells.deleteUnused_nothing alone₃ current₃)
  intro _ t₄ frame₄
  have same₄ : t₄.releases = s.releases := (frame₄.releases.trans same₃).trans same₂
  have current₄ : t₄.doc.currentReleases = t₄.doc.releases := by
    rw [currentReleases_congr same₄, current]
    exact (congrArg ReleasePart.records same₄).symm
  apply Meets.bind (Releases.deleteUnused_nothing current₄)
  exact fun _ _ _ => Meets.report trivial

/-- Deploying again what is deployed replaces nothing but the machine. -/
theorem redeploy_tidy (orderly : s.Orderly .any) (settled : s.Settled manifest extracted) :
    Meets .any Guard.Tidy s (deploy settings manifest extracted registry tunnel)
      (fun _ _ => True) fun _ _ => True := by
  obtain ⟨stemcell, alone, -, name, version⟩ := settled.stemcell
  obtain ⟨job, pool, single, resolved, has⟩ := settled.disk
  have found : s.doc.findStemcell extracted.manifest.name extracted.manifest.version =
      some stemcell := by
    change s.stemcells.records.find? _ = _
    simp [alone, name, version]
  unfold deploy
  rw [single]
  apply Meets.bind (Q := fun found t => job = found ∧ s = t) (Meets.pure ⟨rfl, rfl⟩)
  rintro _ _ ⟨rfl, rfl⟩
  apply Meets.bind (Q := fun _ t => s = t) (Meets.report rfl)
  rintro _ _ rfl
  apply Meets.bind (Meets.inContext (Stemcells.upload_found found))
  rintro stemcell t₁ ⟨rfl, frame₁⟩
  apply Meets.bind (Q := fun _ t => t₁ = t) (Meets.report rfl)
  rintro _ _ rfl
  apply Meets.bind (Q := fun _ t => t₁ = t) (Meets.report rfl)
  rintro _ _ rfl
  have deleting := (Instances.deleteAll_heeds settings settings.pingTimeout settings.pingDelay
    settings.skipDrain ⟨"deploying"⟩ Vm.delete_tidy).under
      (Instances.deleteAll_orderly (orderly.same frame₁))
  apply Meets.seq deleting (fun _ _ _ => trivial)
  intro _ t₂ deleted
  obtain ⟨orderly₂, gone, frame₂⟩ := deleted
  have releases : t₂.releases = s.releases :=
    (frame₂.releases_of (by decide)).trans frame₁.releases
  refine rebuild_tidy orderly₂ gone.current single ?_ ?_ ?_ resolved ?_
  · rw [gone.stemcells, frame₁.stemcells, alone]
  · exact settled.releases.congr releases (frame₁.ids.trans frame₂.ids)
  · rw [currentReleases_congr releases, settled.current]
    exact (congrArg ReleasePart.records releases).symm
  · rw [HasDisk, frame₂.disks_of (by decide), frame₁.disks]
    exact has

end Deployment

/-- Where the only record is the current one, the records tell the pointer. -/
theorem Shelf.pointer_eq {ρ : Type} [Recorded ρ] {d e : Shelf ρ} {r r' : ρ}
    (alone : d.records = [r]) (current : d.current = some r) (alone' : e.records = [r'])
    (current' : e.current = some r') (same : e.records = d.records) : e.pointer = d.pointer := by
  obtain rfl : r' = r := by simpa [alone, alone'] using same
  rw [(pointer_of_current current).2, (pointer_of_current current').2]

/-- What is deployed and the records tell the document, but for the machine and the director. -/
theorem Deployed.document (settled : s.Settled manifest extracted)
    (deployed : Deployed manifest extracted s t) (same : s.doc.SameRecords t.doc) :
    t.doc = { s.doc with
      directorId := t.doc.directorId
      currentVmCid := t.doc.currentVmCid } := by
  have stemcell : t.doc.currentStemcellId = s.doc.currentStemcellId := by
    obtain ⟨record, alone, current, -⟩ := settled.stemcell
    obtain ⟨record', alone', current', -⟩ := deployed.stemcell
    exact Shelf.pointer_eq alone current alone' current' same.stemcells
  have disk : t.doc.currentDiskId = s.doc.currentDiskId := by
    obtain ⟨job, pool, single, resolved, has⟩ := settled.disk
    obtain ⟨job', pool', single', resolved', converged⟩ := deployed.disk
    cases single.symm.trans single'
    cases resolved.symm.trans resolved'
    by_cases none : pool.size = 0
    · rw [DiskConverged, if_pos none] at converged
      exact congrArg Shelf.pointer converged
    · rw [DiskConverged, if_neg none] at converged
      obtain ⟨disk, alone, current, -⟩ := has none
      obtain ⟨disk', alone', placed⟩ := converged
      exact Shelf.pointer_eq alone current alone' placed.current same.disks
  have releases : t.doc.currentReleaseIds = s.doc.currentReleaseIds := by
    obtain ⟨records, finds, pointers⟩ := settled.releases.found
    obtain ⟨records', finds', pointers'⟩ := deployed.recorded.found
    have alike : records'.map some = records.map some := by
      rw [finds, finds']
      simp only [Document.findRelease, same.releases]
    rw [pointers, pointers', List.map_injective_iff.mpr (Option.some_injective _) alike]
  rw [Document.mk.injEq]
  exact ⟨rfl, rfl, stemcell, disk, releases, same.disks, same.stemcells, same.releases⟩

/-- Smooth surroundings have an answer to everything, whatever their store does about directors. -/
theorem Conduct.smooth_minting_total {mints : Prop} (s : Surroundings) (r : Request) :
    ∃ reply t, smooth.AnswersMinting mints s r reply t := by
  by_cases asked : r = .load
  · subst asked
    by_cases needed : mints ∧ s.doc.directorId = ""
    · exact ⟨.ok _, _, smooth.answers_load s _ fun given => absurd needed.2 given,
        fun _ => show "director" ≠ "" by decide, fun never => absurd needed.1 never⟩
    · exact ⟨.ok _, _, smooth.answers_load s _ fun _ => rfl,
        fun minting none => needed ⟨minting, none⟩, fun _ => rfl⟩
  · obtain ⟨reply, t, answered⟩ := smooth_total s r
    refine ⟨reply, t, answered, ?_⟩
    cases r with
    | load => exact absurd rfl asked
    | _ => trivial

/-- A deployment that returned, from any workspace whose records fit together, and then the same
deployment once more, with a store that gives back what was saved: at each of its moments the second
one has asked for no stemcell or disk to be made, deleted, detached or migrated, and each document
that it wanted to save has the records that were there. When it has returned too, the document is
the same but for the machine. -/
theorem redeploy_keeps_records {mints : Prop} {settings : Settings} {registry : RegistryConfig}
    {tunnel : SshTunnelConfig} {left : Program Effects (Except Failure Unit)}
    (disks : s.disks.Regular s.ids) (stemcells : s.stemcells.Regular s.ids)
    (releases : s.releases.Regular s.ids)
    (first : (Operation.deploy settings manifest extracted registry tunnel).ComesMinting mints s
      (.done (.ok ())) t)
    (second : (Operation.deploy settings manifest extracted registry tunnel).ComesMinting mints t
      left u) :
    (∀ e ∈ u.calls, ¬e.request.Replaces ∧
        ∀ doc, e.request = .save doc → t.doc.SameRecords doc) ∧
      (left = .done (.ok ()) → u.doc = { t.doc with currentVmCid := u.doc.currentVmCid }) := by
  obtain ⟨orderly, deployed⟩ :=
    (Deployment.deploy_orderly (orderly_any disks stemcells releases).begin).returned first.comes
  have settled := deployed.settled.begin
  have tidy : Meets .any Guard.Tidy t.begin
      (Operation.deploy settings manifest extracted registry tunnel).program _ _ :=
    Deployment.redeploy_tidy orderly.begin settled
  have since : u.TidySince t.doc := by
    refine Program.Meets.always (TidySince t.doc) tidy second.comes ⟨⟨rfl, rfl, rfl⟩, nofun⟩ ?_
    exact fun _ _ _ _ answered safe tidy => tidy.step safe answered.step
  refine ⟨since.calls, ?_⟩
  rintro rfl
  obtain ⟨-, deployed'⟩ := (Deployment.deploy_orderly orderly.begin).returned second.comes
  have directed : t.Directed mints :=
    (Deployment.deploy_directs _ _ _ _ _ s.begin).ends first
  have director : u.doc.directorId = t.doc.directorId :=
    ((Deployment.deploy_touches _ _ _ _ _).keepsDirector (by decide) t.begin).ends second directed
  have document := Deployed.document settled deployed' since.same
  rwa [director] at document

/-- After what failed runs may leave, the second of two deployments keeps the new disk. -/
theorem redeploy_keeps_records_leftover : ∃ t u,
    Operation.minimal.ComesMinting True .leftover (.done (.ok ())) t ∧
      Operation.minimal.ComesMinting True t (.done (.ok ())) u ∧
      (∀ e ∈ u.calls, ¬e.request.Replaces) ∧
      u.doc = { t.doc with currentVmCid := u.doc.currentVmCid } := by
  have resolves := Manifest.minimal_resolves
  have widen {s t : Surroundings} {left : Program Effects (Except Failure Unit)}
      (ran : Operation.minimal.program.run.Reaches (Conduct.smooth.AnswersMinting True) s.begin
        left t) : Operation.minimal.ComesMinting True s left t :=
    ran.mono fun _ _ _ _ answered => ⟨Conduct.answers_any answered.1, answered.2⟩
  have runs {s : Surroundings} (orderly : s.Orderly .smooth) :
      ∃ t, Operation.minimal.ComesMinting True s (.done (.ok ())) t ∧ t.Orderly .smooth := by
    obtain ⟨result, t, ran⟩ :=
      Operation.minimal.program.run.exists_done Conduct.smooth_minting_total s.begin
    have ran' : Operation.minimal.Comes .smooth s (.done result) t :=
      ran.mono fun _ _ _ _ => And.left
    obtain rfl : result = .ok () := (Operation.deploy_ends _ _ _ _ orderly resolves).ends ran'
    exact ⟨t, widen ran, (Deployment.deploy_orderly orderly.begin).returned ran' |>.1⟩
  obtain ⟨t, first, orderly⟩ := runs leftover_orderly
  obtain ⟨u, second, -⟩ := runs orderly
  have start : Surroundings.leftover.Orderly .any := leftover_orderly
  have kept := redeploy_keeps_records start.disks.regular start.stemcells.regular start.releases
    first second
  exact ⟨t, u, first, second, fun e asked => (kept.1 e asked).1, kept.2 rfl⟩

end Reconciler
