import Reconciler.Proofs.PledgedStores

/-!
A deployment that returns has brought the workspace to what its manifest asks for, whatever the
workspace and the cloud held before, and whatever failed on the way without stopping it. The
document lies in a store of which it is only relied on that it gives back what was saved.
-/
namespace Reconciler

open Engine Surroundings

variable {s t : Surroundings}

/-- A pool that a job resolves to has properties. -/
theorem Manifest.diskPool_properties {manifest : Manifest} {name : String} {pool : DiskPool}
    (resolved : manifest.diskPool name = .ok pool) :
    pool.cloudProperties = some pool.propertiesOrEmpty := by
  unfold diskPool at resolved
  cases found : manifest.job name with
  | error e => simp [found, bind, Except.bind] at resolved
  | ok job =>
    simp only [found, bind, Except.bind] at resolved
    split at resolved
    · cases resolved
      rfl
    · split at resolved
      · cases resolved
        rfl
      · cases resolved

theorem Conduct.not_faithful_any : ¬any.Faithful := fun faithful => faithful.honest

/-- With a cloud that may lie, records that fit together are all that there is to keep in order. -/
theorem Surroundings.orderly_any (disks : s.disks.Regular s.ids)
    (stemcells : s.stemcells.Regular s.ids) (releases : s.releases.Regular s.ids) :
    s.Orderly .any := by
  intro p
  have truly {P : Prop} (faithful : Conduct.any.Faithful) : P :=
    absurd faithful Conduct.not_faithful_any
  cases p with
  | machine => exact ⟨False.elim, False.elim, truly⟩
  | disks => exact ⟨disks, False.elim, truly⟩
  | stemcells => exact ⟨stemcells, False.elim, truly⟩
  | releases => exact releases
  | director => trivial

/-- What a deployment that returns leaves behind, over any store that gives back what is saved of
the settings that there are and that the manifest asks for, from any workspace whose records fit
together and any cloud: the machine that it made is the current one; its stemcell is recorded,
current and alone; the releases that the manifest names are recorded, each once, and current; the
disk of the job is recorded, current and alone, is what the pool asks for and was attached to that
machine, or without a disk to ask for the disks are as they were; the director is the same; and all
this is what the store says. -/
theorem deploy_converges {κ : Type} {pledge : Pledge κ} {store : Behaviour Effects κ} {k l : κ}
    {settings : Settings} {manifest : Manifest} {extracted : ExtractedStemcell}
    {registry : RegistryConfig} {tunnel : SshTunnelConfig} (kept : pledge.Kept store)
    (said : pledge.Says k s.doc) (stored : s.doc.SettingsFit pledge.Fits)
    (pools : manifest.PoolsFit pledge.Fits) (disks : s.disks.Regular s.ids)
    (stemcells : s.stemcells.Regular s.ids) (releases : s.releases.Regular s.ids)
    (ran : (Operation.deploy settings manifest extracted registry tunnel).ComesWith .any store s k
      (.done (.ok ())) t l) :
    t.machine.made = [t.doc.currentVmCid] ∧
      (∃ record, t.doc.stemcells = [record] ∧ t.doc.currentStemcell = some record ∧
        record.name = extracted.manifest.name ∧ record.version = extracted.manifest.version) ∧
      ReleasesConverged manifest.releases t ∧
      (∃ job pool, manifest.singleJob = .ok job ∧ manifest.diskPool job.name = .ok pool ∧
        (pool.size = 0 → t.doc.disks = s.doc.disks ∧ t.doc.currentDiskId = s.doc.currentDiskId) ∧
        (pool.size ≠ 0 → ∃ disk, t.doc.disks = [disk] ∧ t.doc.currentDisk = some disk ∧
          disk.size = pool.size ∧ (∃ properties, pool.cloudProperties = some properties ∧
            Json.sameMembers disk.cloudProperties properties = true) ∧
          t.attachments.getLast? = some (disk.cid, t.doc.currentVmCid))) ∧
      (s.doc.directorId ≠ "" → t.doc.directorId = s.doc.directorId) ∧ pledge.Says l t.doc := by
  obtain ⟨came, said', -⟩ := ran.comes kept said stored pools
  unfold Operation.Comes at came
  have valid := (Deployment.deploy_touches settings manifest extracted registry tunnel).tracks.and
    (Deployment.deploy_orderly (orderly_any disks stemcells releases).begin)
  obtain ⟨frame, -, deployed⟩ := valid.returned came
  obtain ⟨job, pool, single, resolved, converged⟩ := deployed.disk
  refine ⟨deployed.machine, deployed.stemcell, deployed.releases,
    ⟨job, pool, single, resolved, fun none => ?_, fun some => ?_⟩,
    frame.same .director (by decide), said'⟩
  · rw [DiskConverged, if_pos none] at converged
    exact ⟨congrArg Shelf.records converged, congrArg Shelf.pointer converged⟩
  · rw [DiskConverged, if_neg some] at converged
    obtain ⟨disk, records, current, fits, before, attachments⟩ := converged
    refine ⟨disk, records, current, fits.size,
      ⟨_, Manifest.diskPool_properties resolved, fits.properties⟩, ?_⟩
    rw [attachments, List.getLast?_concat]
    rfl

/-- What failed runs may leave: a machine, a stemcell and a release of before, and next to the
current disk a new one that the data was never moved to. -/
def Surroundings.leftover : Surroundings where
  doc :=
    { directorId := "director"
      currentVmCid := "vm"
      currentStemcellId := "3"
      currentDiskId := "1"
      currentReleaseIds := ["4"]
      disks := [⟨"1", "old", 512, []⟩, ⟨"2", "new", 1024, []⟩]
      stemcells := [⟨"3", "stemcell", "0", "stemcell-0"⟩]
      releases := [⟨"4", "release", "0"⟩] }
  cloud := fun
    | .vm => {"vm"}
    | .disk => {"old", "new"}
    | .stemcell => {"stemcell-0"}
  seen := fun _ => {"", "vm", "old", "new", "stemcell-0"}
  ids := {"1", "2", "3", "4"}
  calls := []

theorem Surroundings.leftover_orderly {c : Conduct} : leftover.Orderly c := by
  intro p
  cases p with
  | machine => exact ⟨fun _ => by decide, fun _ => by decide, fun _ _ => by decide⟩
  | disks =>
    refine ⟨⟨by decide, ?_, ?_, by decide, ?_, .inr ⟨⟨"1", "old", 512, []⟩, ?_, rfl⟩⟩,
      fun _ => ?_, fun _ => ?_⟩
    all_goals simp [Surroundings.disks, leftover, Recorded.recordId, Recorded.cloudId,
      Shelf.Covered, Shelf.Stocked]
  | stemcells =>
    refine ⟨⟨by decide, ?_, ?_, by decide, ?_,
      .inr ⟨⟨"3", "stemcell", "0", "stemcell-0"⟩, ?_, rfl⟩⟩, fun _ => ?_, fun _ => ?_⟩
    all_goals simp [Surroundings.stemcells, leftover, Recorded.recordId, Recorded.cloudId,
      Shelf.Covered, Shelf.Stocked]
  | releases =>
    refine ⟨by decide, ?_⟩
    simp [Surroundings.releases, leftover]
  | director => trivial

theorem Manifest.minimal_poolsFit : Manifest.minimal.PoolsFit Properties.Storable :=
  Manifest.poolsFit .empty nofun

/-- Where nothing fails the manifest is deployed over any store that works. -/
theorem Operation.minimal_deploys {κ : Type} {pledge : Pledge κ} {store : Behaviour Effects κ}
    {k : κ} (kept : pledge.Kept store) (works : pledge.Works store) (said : pledge.Says k s.doc)
    (stored : s.doc.SettingsFit pledge.Fits) (pools : Manifest.minimal.PoolsFit pledge.Fits)
    (orderly : s.Orderly .smooth) :
    ∃ t l, Operation.minimal.ComesWith .any store s k (.done (.ok ())) t l := by
  obtain ⟨result, t, l, ran⟩ := Operation.minimal.exists_comesWith kept works said stored pools
  obtain rfl : result = .ok () := (Operation.deploy_ends _ _ _ _ orderly
    Manifest.minimal_resolves).ends (ran.comes kept said stored pools).1
  exact ⟨t, l, ran.any⟩

/-- From there, with the document in a file, the old machine, the old stemcell, the old release and
both disks are gone after a deployment with a larger disk. A new workspace in memory has a disk
after a first deployment. -/
theorem deploy_converges_leftover :
    (∃ t files, Operation.minimal.ComesWith .any (FileStore.ServesNamed ⟨["state"]⟩) .leftover
        (.compact Surroundings.leftover.doc) (.done (.ok ())) t files ∧
      t.machine.made = [t.doc.currentVmCid] ∧
      (∃ record, t.doc.stemcells = [record] ∧ record.version = "1") ∧
      (∃ disk, t.doc.disks = [disk] ∧ disk.size = 1024 ∧
        t.attachments.getLast? = some (disk.cid, t.doc.currentVmCid)) ∧
      t.doc.directorId = "director" ∧ Says (files ⟨["state"]⟩) t.doc) ∧
    ∃ t doc, Operation.minimal.ComesWith .any MemoryStore.Serves .empty none (.done (.ok ()))
        t doc ∧
      (∃ disk, t.doc.disks = [disk] ∧ disk.size = 1024) ∧ t.doc = doc.getD (.fresh "") := by
  constructor
  · let path : Path := ⟨["state"]⟩
    have kept := FileStore.pledge_kept path
    have stored : Surroundings.leftover.doc.SettingsFit Properties.Storable := by
      simp [Document.SettingsFit, Surroundings.leftover, Properties.Storable.empty]
    have said : (FileStore.pledge path).Says (.compact Surroundings.leftover.doc) _ :=
      .inr (Document.says_compact stored)
    have pools := Manifest.minimal_poolsFit
    have orderly : Surroundings.leftover.Orderly .any := leftover_orderly
    obtain ⟨t, files, ran⟩ := Operation.minimal_deploys kept (FileStore.pledge_works path) said
      stored pools leftover_orderly
    obtain ⟨made, ⟨record, records, -, -, version⟩, -, ⟨job, pool, single, resolved, -, placed⟩,
      director, told⟩ := deploy_converges kept said stored pools orderly.disks.regular
        orderly.stemcells.regular orderly.releases ran
    cases single
    cases resolved
    obtain ⟨disk, disks, -, size, -, attached⟩ := placed (by decide)
    have directed : t.doc.directorId = "director" := director (by decide)
    have written : Says (files path) t.doc := told.resolve_left fun new => by
      simp [new.2, Document.fresh] at directed
    exact ⟨t, files, ran, made, ⟨record, records, version⟩, ⟨disk, disks, size, attached⟩,
      directed, written⟩
  · have kept := MemoryStore.pledge_kept
    have pools : Manifest.minimal.PoolsFit MemoryStore.pledge.Fits := fun _ _ _ => trivial
    have said : MemoryStore.pledge.Says none Surroundings.empty.doc := rfl
    have orderly : Surroundings.empty.Orderly .any := empty_orderly
    obtain ⟨t, doc, ran⟩ := Operation.minimal_deploys kept MemoryStore.pledge_works said
      (fun _ _ => trivial) pools empty_orderly
    obtain ⟨-, -, -, ⟨job, pool, single, resolved, -, placed⟩, -, told⟩ :=
      deploy_converges kept said (fun _ _ => trivial) pools orderly.disks.regular
        orderly.stemcells.regular orderly.releases ran
    cases single
    cases resolved
    obtain ⟨disk, disks, -, size, -⟩ := placed (by decide)
    exact ⟨t, doc, ran, ⟨disk, disks, size⟩, told⟩

end Reconciler
