import Reconciler.Proofs.Resumption

/-!
Taking everything down. A deployment is deleted by what its document points to, and cleaning up
deletes what is recorded and not pointed to. Together they leave nothing in the cloud that was ever
made for the workspace, even when some of it had disappeared before.
-/
namespace Reconciler

open Engine Surroundings

variable {s t u : Surroundings}

/-- Everything may fail, but the cloud is honest about what is not there. -/
def Conduct.truthful : Conduct := ⟨fun _ _ => True, True, False⟩

theorem Conduct.not_faithful_truthful : ¬truthful.Faithful := fun faithful =>
  faithful.stores ⟨fun _ => ∅, .load, .inl rfl, trivial⟩

theorem Conduct.truthful_of_reliableStore {r : Request} {reply : r.Reply}
    (answered : reliableStore.Answers s r reply t) : truthful.Answers s r reply t :=
  answered.mono (fun _ _ _ => trivial) id False.elim

namespace Surroundings

/-- Some of what the cloud has may go without the engine. -/
theorem Orderly.without {cloud : Holdings} (orderly : s.Orderly .reliableStore)
    (removed : ∀ kind, cloud kind ⊆ s.cloud kind) :
    { s with cloud := cloud }.Orderly .truthful := by
  have missing {P : Prop} (faithful : Conduct.truthful.Faithful) : P :=
    absurd faithful Conduct.not_faithful_truthful
  intro p
  cases p with
  | machine =>
    have machine : s.machine.Orderly .reliableStore := orderly .machine
    exact ⟨machine.unnamed, fun honest cid there => machine.covered honest cid (removed .vm there),
      missing⟩
  | disks =>
    exact ⟨orderly.disks.regular.withThere _,
      fun honest => (removed .disk).trans (orderly.disks.covered honest), missing⟩
  | stemcells =>
    exact ⟨orderly.stemcells.regular.withThere _,
      fun honest => (removed .stemcell).trans (orderly.stemcells.covered honest), missing⟩
  | releases => exact orderly.releases
  | director => trivial

/-- Where nothing is recorded an honest cloud has nothing. -/
theorem Orderly.nothing (orderly : s.Orderly .truthful) (none : s.machine.current = "")
    (disks : s.disks.records = []) (stemcells : s.stemcells.records = []) (kind : Resource) :
    s.cloud kind = ∅ := by
  cases kind with
  | vm =>
    have machine : s.machine.Orderly .truthful := orderly .machine
    refine Finset.eq_empty_of_forall_notMem fun cid there => ?_
    obtain ⟨named, recorded⟩ := machine.covered trivial cid there
    exact named (recorded.trans none)
  | disk => exact (orderly.disks.covered trivial).nothing disks
  | stemcell => exact (orderly.stemcells.covered trivial).nothing stemcells

/-- Nothing is current or recorded any more, releases apart. -/
theorem Undeployed.isEmpty (undeployed : s.Undeployed) (disks : s.disks.records = [])
    (stemcells : s.stemcells.records = []) : s.doc.isEmpty = true := by
  have machine : s.doc.currentVmCid = "" := undeployed.machine
  have disk : s.doc.currentDiskId = "" := undeployed.disk
  have stemcell : s.doc.currentStemcellId = "" := undeployed.stemcell
  have disks : s.doc.disks = [] := disks
  have stemcells : s.doc.stemcells = [] := stemcells
  simp [Document.isEmpty, machine, disk, stemcell, disks, stemcells]

/-- Cleaning up where nothing is current deletes everything. -/
theorem Undeployed.cleanUp {c : Conduct} {stage : Stage} (undeployed : s.Undeployed)
    (orderly : s.Orderly c) :
    Meets c (.oneVm c) s (Deployment.cleanUp stage)
      (fun _ t => t.Orderly c ∧ t.Undeployed ∧ t.disks.records = [] ∧ t.stemcells.records = [])
      fun _ => Interrupted c := by
  have cleaned : Meets c (.oneVm c) s (Deployment.cleanUp stage) _ _ :=
    Deployment.cleanUp_orderly orderly
  refine ((Deployment.cleanUp_touches stage).returns cleaned).weaken ?_ fun _ _ h => h
  rintro _ t ⟨⟨orderly', disks, stemcells⟩, frame⟩
  rw [orderly.disks.regular.current_eq_none_iff.mpr undeployed.disk] at disks
  rw [orderly.stemcells.regular.current_eq_none_iff.mpr undeployed.stemcell] at stemcells
  refine ⟨orderly', ⟨?_, ?_, ?_⟩, disks, stemcells⟩
  · rw [frame.machine_of (by decide), undeployed.machine]
  · rw [← orderly'.disks.regular.current_eq_none_iff, Shelf.current, disks]
    simp
  · rw [← orderly'.stemcells.regular.current_eq_none_iff, Shelf.current, stemcells]
    simp

end Surroundings

/-- From wherever failed runs of any operations have left a workspace, and with any of its machines,
disks and stemcells gone from the cloud since: when what is deployed could be deleted and the rest
cleaned up, the document is empty, the cloud has nothing that was ever made for the workspace, and
nothing is found to be deployed. -/
theorem teardown_leaves_nothing {cloud : Holdings} {settings : Settings} {stage stage' : Stage}
    (history : History .reliableStore (fun _ => True) .empty s)
    (removed : ∀ kind, cloud kind ⊆ s.cloud kind)
    (deleted : (Operation.delete settings stage).Comes .reliableStore { s with cloud := cloud }
      (.done (.ok ())) t)
    (cleaned : (Operation.cleanUp stage').Comes .reliableStore t (.done (.ok ())) u) :
    u.doc.isEmpty = true ∧ (∀ kind, u.cloud kind = ∅) ∧
      ∀ settings' result v, (Deployment.findCurrent settings').run.Reaches
        Conduct.reliableStore.Answers u.begin (.done result) v → result = .ok none := by
  unfold Operation.Comes at deleted cleaned
  have orderly := (history.orderly Conduct.reliableStore_faithful).without removed
  replace deleted := deleted.mono fun _ _ _ _ => Conduct.truthful_of_reliableStore
  replace cleaned := cleaned.mono fun _ _ _ _ => Conduct.truthful_of_reliableStore
  obtain ⟨orderly₁, undeployed₁⟩ := (Operation.delete_orderly orderly.begin).returned deleted
  have undeployed : t.begin.Undeployed := ⟨undeployed₁.machine, undeployed₁.disk,
    undeployed₁.stemcell⟩
  obtain ⟨orderly₂, undeployed₂, disks, stemcells⟩ :=
    (undeployed.cleanUp orderly₁.begin).returned cleaned
  refine ⟨undeployed₂.isEmpty disks stemcells,
    orderly₂.nothing undeployed₂.machine disks stemcells, fun settings' result v ran => ?_⟩
  have looked : (Deployment.findCurrent settings').run.Meets _ _ _ u.begin :=
    Deployment.findCurrent_meets (c := .reliableStore) (g := .none)
  have ended := looked.ends ran
  cases result with
  | error e => exact absurd ended.1 Conduct.not_storeFails_reliableStore
  | ok found =>
    obtain ⟨-, deployment, inside, rfl⟩ := ended
    have undeployed : u.begin.Undeployed := ⟨undeployed₂.machine, undeployed₂.disk,
      undeployed₂.stemcell⟩
    rw [if_pos ((inside.isEmpty_iff orderly₂.begin).mpr undeployed)]

/-- A machine that is made has a cid. -/
theorem Surroundings.Step.made_named {r : Request} (step : s.Step r t)
    (unnamed : "" ∈ s.seen .vm) (named : "" ∉ s.machine.made) :
    "" ∈ t.seen .vm ∧ "" ∉ t.machine.made := by
  have more {e : Exchange} (other : e.made ≠ some "") :
      "" ∉ (s.calls ++ [e]).filterMap Exchange.made := by
    rw [List.filterMap_append, List.mem_append]
    rintro (old | new)
    · exact named old
    · exact other (by simpa using new)
  cases step with
  | same | loaded | issued => exact ⟨unnamed, named⟩
  | told | saved | unsaved => exact ⟨unnamed, more nofun⟩
  | @refused call error =>
    refine ⟨unnamed, more ?_⟩
    cases call <;> exact nofun
  | @served call answer unused =>
    refine ⟨s.seen.subset_everAfter call answer .vm unnamed, more fun made => ?_⟩
    cases call with
    | createVm =>
      cases made
      exact unused .vm "" rfl unnamed
    | _ => cases made

theorem Program.Reaches.made_named {α : Type} {c : Conduct} {p left : Program Effects α}
    (reached : p.Reaches c.Answers s left t) (unnamed : "" ∈ s.seen .vm)
    (named : "" ∉ s.machine.made) : "" ∉ t.machine.made := by
  induction reached with
  | here => exact named
  | next answered _ ih =>
    obtain ⟨unnamed, named⟩ := answered.step.made_named unnamed named
    exact ih unnamed named

/-- A machine, a disk and a stemcell are recorded, and the cloud has them. -/
structure Surroundings.Standing (s : Surroundings) : Prop where
  machine : s.doc.currentVmCid ∈ s.cloud .vm
  disk : ∃ disk, s.doc.currentDisk = some disk ∧ disk.cid ∈ s.cloud .disk
  stemcell : ∃ stemcell, s.doc.currentStemcell = some stemcell ∧ stemcell.cid ∈ s.cloud .stemcell

/-- A first deployment where nothing fails. -/
theorem Operation.minimal_standing : ∃ s,
    Operation.minimal.Comes .smooth .empty (.done (.ok ())) s ∧ s.Orderly .smooth ∧
      s.Standing := by
  have faithful := Conduct.smooth_faithful
  obtain ⟨result, s, ran⟩ := Operation.minimal.program.run.exists_done Conduct.smooth_total
    Surroundings.empty.begin
  obtain rfl : result = .ok () :=
    (Operation.deploy_ends _ _ _ _ empty_orderly Manifest.minimal_resolves).ends ran
  obtain ⟨orderly, deployed⟩ := (Deployment.deploy_orderly empty_orderly.begin).returned ran
  have made : s.machine.made = [s.machine.current] := deployed.machine
  have named : s.machine.current ≠ "" := by
    have unmade : "" ∉ s.machine.made := ran.made_named (by decide) (by decide)
    rw [made] at unmade
    exact fun same => unmade (by simp [same])
  obtain ⟨stemcell, -, current, -, -⟩ := deployed.stemcell
  obtain ⟨job, pool, single, resolved, converged⟩ := deployed.disk
  cases single
  cases resolved
  rw [DiskConverged, if_neg (by decide)] at converged
  obtain ⟨disk, -, now, -⟩ := converged
  refine ⟨s, ran, orderly, ?_, ⟨disk, now, ?_⟩, ⟨stemcell, current, ?_⟩⟩
  · have machine : s.machine.Orderly .smooth := orderly .machine
    exact machine.stocked faithful named
  · exact orderly.disks.there (Shelf.current_mem now) faithful
  · exact orderly.stemcells.there (Shelf.current_mem current) faithful

/-- Where nothing fails everything can be taken down. -/
theorem Operation.takes_down (settings : Settings) (stage stage' : Stage)
    (orderly : s.Orderly .smooth) : ∃ t u,
    (Operation.delete settings stage).Comes .reliableStore s (.done (.ok ())) t ∧
      (Operation.cleanUp stage').Comes .reliableStore t (.done (.ok ())) u := by
  have deleting : Meets .smooth _ s.begin (Operation.delete settings stage).program _ _ :=
    Operation.delete_orderly orderly.begin
  obtain ⟨_, t, deleted, orderly', -⟩ := deleting.exists_returned
  have cleaning : Meets .smooth _ t.begin (Operation.cleanUp stage').program _ _ :=
    Deployment.cleanUp_orderly orderly'.begin
  obtain ⟨_, u, cleaned, -⟩ := cleaning.exists_returned
  exact ⟨t, u, deleted.mono fun _ _ _ _ => Conduct.reliableStore_of_smooth,
    cleaned.mono fun _ _ _ _ => Conduct.reliableStore_of_smooth⟩

/-- The stemcell that a failed deployment has left is not in the cloud any more: nothing is
deployed, and cleaning up forgets it. -/
theorem Surroundings.full_taken_down : ∃ t u,
    (Operation.delete .standard ⟨"deleting"⟩).Comes .reliableStore
        { Surroundings.full with cloud := fun _ => ∅ } (.done (.ok ())) t ∧
      (Operation.cleanUp ⟨"cleaning"⟩).Comes .reliableStore t (.done (.ok ())) u := by
  let c := Conduct.reliableStore
  have loads (s : Surroundings) (kept : s.doc.directorId ≠ "" → "director" = s.doc.directorId) :=
    c.answers_load s _ kept
  let missing : CloudError := ⟨"delete_stemcell", .stemcellNotFound, "not found"⟩
  have misses (s : Surroundings) (cid : String) (absent : cid ∉ s.cloud .stemcell) :
      c.Answers s (.cloud (.deleteStemcell cid)) (.error missing)
        (s.noted ⟨.cloud (.deleteStemcell cid), .error missing⟩) := by
    refine ⟨trivial, fun _ kind other deletes _ => ?_, rfl⟩
    cases deletes
    exact absent
  exact ⟨_, _, .next (loads _ fun _ => rfl) <| .next (loads _ fun _ => rfl) <|
      .next (loads _ fun _ => rfl) <| .here _ _,
    .next (loads _ fun _ => rfl) <| .next (loads _ fun _ => rfl) <|
    .next (loads _ fun _ => rfl) <| .next (loads _ fun _ => rfl) <|
    .next (c.answers_report _ _) <| .next (misses _ _ (Finset.notMem_empty _)) <|
    .next (loads _ fun _ => rfl) <| .next (c.answers_save _ _) <|
    .next (c.answers_report _ _) <| .next (loads _ fun _ => rfl) <|
    .next (loads _ fun _ => rfl) <| .here _ _⟩

/-- A deployment with its machine, its disk and its stemcell is taken down, and so is what a failed
one has left, of which nothing is in the cloud any more. -/
theorem teardown_leaves_nothing_standing :
    (∃ s t u, History .reliableStore (fun _ => True) .empty s ∧ s.Standing ∧
      (Operation.delete .standard ⟨"deleting"⟩).Comes .reliableStore s (.done (.ok ())) t ∧
      (Operation.cleanUp ⟨"cleaning"⟩).Comes .reliableStore t (.done (.ok ())) u ∧
      u.doc.isEmpty = true ∧ ∀ kind, u.cloud kind = ∅) ∧
    ∃ t u, History .reliableStore (fun _ => True) .empty .full ∧
      Surroundings.full.doc.isEmpty = false ∧
      (Operation.delete .standard ⟨"deleting"⟩).Comes .reliableStore
        { Surroundings.full with cloud := fun _ => ∅ } (.done (.ok ())) t ∧
      (Operation.cleanUp ⟨"cleaning"⟩).Comes .reliableStore t (.done (.ok ())) u ∧
      u.doc.isEmpty = true ∧ ∀ kind, u.cloud kind = ∅ := by
  constructor
  · obtain ⟨s, ran, orderly, standing⟩ := Operation.minimal_standing
    have history : History .reliableStore (fun _ => True) .empty s :=
      .run (.start _) trivial (ran.mono fun _ _ _ _ => Conduct.reliableStore_of_smooth)
    obtain ⟨t, u, deleted, cleaned⟩ :=
      Operation.takes_down .standard ⟨"deleting"⟩ ⟨"cleaning"⟩ orderly
    obtain ⟨empty, nothing, -⟩ :=
      teardown_leaves_nothing history (fun _ => Finset.Subset.refl _) deleted cleaned
    exact ⟨s, t, u, history, standing, deleted, cleaned, empty, nothing⟩
  · obtain ⟨e, ran⟩ := Operation.minimal_full
    have history : History .reliableStore (fun _ => True) .empty .full :=
      .run (.start _) trivial ran
    obtain ⟨t, u, deleted, cleaned⟩ := Surroundings.full_taken_down
    obtain ⟨empty, nothing, -⟩ :=
      teardown_leaves_nothing history (fun _ => Finset.empty_subset _) deleted cleaned
    exact ⟨t, u, history, rfl, deleted, cleaned, empty, nothing⟩

end Reconciler
