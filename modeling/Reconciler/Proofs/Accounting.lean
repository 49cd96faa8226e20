import Reconciler.Proofs.DeploymentRuns

/-!
Nothing leaks and nothing is made up. Through any history of failed and finished runs the cloud has
at the end of each run what the workspace document says, and there are never two machines.
-/
namespace Reconciler

open Engine Surroundings

variable {c : Conduct} {s t : Surroundings}

theorem Conduct.reliableStore_faithful : reliableStore.Faithful :=
  ⟨trivial, not_storeFails_reliableStore⟩

/-- The books do not depend on what else may go wrong. -/
theorem Surroundings.Orderly.transfer {c' : Conduct} (orderly : s.Orderly c)
    (faithful : c.Faithful) : s.Orderly c' := by
  intro p
  cases p with
  | machine =>
    have machine : s.machine.Orderly c := orderly .machine
    exact ⟨fun _ => machine.unnamed faithful.honest, fun _ => machine.covered faithful.honest,
      fun _ => machine.stocked faithful⟩
  | disks =>
    exact ⟨orderly.disks.regular, fun _ => orderly.disks.covered faithful.honest,
      fun _ => orderly.disks.stocked faithful⟩
  | stemcells =>
    exact ⟨orderly.stemcells.regular, fun _ => orderly.stemcells.covered faithful.honest,
      fun _ => orderly.stemcells.stocked faithful⟩
  | releases => exact orderly.releases
  | director => trivial

/-- Whatever was done with a workspace, its books are in order. -/
theorem History.orderly (faithful : c.Faithful)
    (history : History c (fun _ => True) .empty s) : s.Orderly c := by
  apply history.invariant empty_orderly
  intro operation s _ orderly
  exact (Operation.orderly orderly.begin).unguarded.weaken (fun _ _ h => h)
    fun _ _ h => h faithful

theorem MachinePart.Accounted.card_le {m : MachinePart} (accounted : m.Accounted) :
    m.there.card ≤ 1 := by
  rw [accounted.there]
  split
  · simp
  · simp

/-- A machine is only made where there is none, and nothing else adds to the machines. -/
theorem Surroundings.Step.vms_card_le {r : Request} (step : s.Step r t)
    (guarded : ¬r.IsQuiet → Guard.oneVm c s r) (faithful : c.Faithful)
    (few : (s.cloud .vm).card ≤ 1) : (t.cloud .vm).card ≤ 1 := by
  cases step with
  | @served call answer =>
    cases call with
    | createVm =>
      have none : s.cloud .vm = ∅ := guarded id faithful
      have added := congrArg Finset.card (Holdings.add_same s.cloud .vm answer)
      exact added.trans_le ((Finset.card_insert_le _ _).trans (by simp [none]))
    | deleteVm cid =>
      change (s.cloud.drop .vm cid .vm).card ≤ 1
      rw [Holdings.drop_same]
      exact Finset.card_erase_le.trans few
    | _ => exact few
  | _ => exact few

/-- At every moment of an operation the cloud has at most one machine, whatever failed before, in
this run or earlier. When an operation has returned, well or not, the cloud has the machines, the
disks and the stemcells that are recorded, and no others. -/
theorem cloud_matches_records {operation : Operation}
    {left : Program Effects (Except Failure Unit)}
    (history : History .reliableStore (fun _ => True) .empty s)
    (moment : operation.Comes .reliableStore s left t) :
    (t.cloud .vm).card ≤ 1 ∧ ∀ result, left = .done result →
      t.cloud .vm = (if t.doc.currentVmCid = "" then ∅ else {t.doc.currentVmCid}) ∧
      t.cloud .disk = (t.doc.disks.map DiskRecord.cid).toFinset ∧
      t.cloud .stemcell = (t.doc.stemcells.map StemcellRecord.cid).toFinset := by
  unfold Operation.Comes at moment
  have faithful := Conduct.reliableStore_faithful
  have orderly := (history.orderly faithful).begin
  have valid : operation.program.run.Meets _ _ _ _ := Operation.orderly orderly
  constructor
  · refine Program.Meets.always (fun u => (u.cloud .vm).card ≤ 1) valid moment
      (orderly.machine faithful).card_le ?_
    exact fun _ _ _ _ answered safe few => answered.step.vms_card_le safe faithful few
  · rintro result rfl
    have ended := Program.Meets.ends valid moment
    have orderly' : t.Orderly .reliableStore := by
      cases result with
      | ok a => exact ended
      | error e => exact ended faithful
    exact ⟨(orderly'.machine faithful).there, orderly'.disks.accounted faithful,
      orderly'.stemcells.accounted faithful⟩

/-- One instance of one job with a disk of its own, and all that it names. -/
def Manifest.minimal : Manifest where
  name := "deployment"
  releases := [⟨"release", "1"⟩]
  jobs := [⟨"job", 1, "machines", ["network"], 1024, none⟩]
  diskPools := []
  resourcePools := [⟨"machines", [], []⟩]
  networks := [⟨"network", "manual", none, []⟩]
  update := .none

def ExtractedStemcell.minimal : ExtractedStemcell := ⟨⟨"stemcell", "1", "image", []⟩, "path"⟩

/-- Deploys it without a registry. -/
def Operation.minimal : Operation := .deploy .standard .minimal .minimal .empty .empty

namespace Surroundings

/-- A new workspace with its director, when the stemcell is in the cloud and not recorded yet. -/
def uploaded : Surroundings :=
  (empty.loaded "director").served (.createStemcell "image" []) "stemcell-1"

/-- The same, when the stemcell is recorded. -/
def recorded : Surroundings :=
  (uploaded.issued "1").saved (uploaded.doc.addStemcell ⟨"1", "stemcell", "1", "stemcell-1"⟩)

/-- The same, when the cloud had no room for a machine of an agent. -/
def full : Surroundings :=
  (recorded.issued "2").noted ⟨.cloud (.createVm "2" "stemcell-1" [] []
    [("network", Manifest.networkSettings ⟨"network", "manual", none, []⟩)] []),
    .error ⟨"create_vm", .other, "no room"⟩⟩

end Surroundings

/-- A first deployment, for whose machine there is no room. -/
theorem Operation.minimal_full :
    ∃ e, Operation.minimal.Comes .reliableStore .empty (.done (.error e)) .full := by
  let c := Conduct.reliableStore
  have loads (s : Surroundings) (kept : s.doc.directorId ≠ "" → "director" = s.doc.directorId) :=
    c.answers_load s _ kept
  have creates : c.Answers (empty.loaded "director") (.cloud (.createStemcell "image" []))
      (.ok "stemcell-1") uploaded := by
    refine ⟨?_, rfl⟩
    rintro kind cid created
    cases created
    simp [Surroundings.empty, Surroundings.loaded]
  exact ⟨_, .next (c.answers_report _ _) <| .next (c.answers_report _ _) <|
    .next (loads _ nofun) <| .next creates <| .next (loads _ fun _ => rfl) <|
    .next (c.answers_freshId _ (by decide) (by decide)) <| .next (c.answers_save _ _) <|
    .next (c.answers_report _ _) <| .next (c.answers_report _ _) <|
    .next (c.answers_report _ _) <| .next (loads _ fun _ => rfl) <|
    .next (c.answers_report _ _) <| .next (loads _ fun _ => rfl) <|
    .next (c.answers_freshId _ (by decide) (by decide)) <|
    .next (c.answers_refused _ _ trivial rfl) <| .next (c.answers_report _ _) <| .here _ _⟩

/-- The second attempt, where there is room. The machine is made and recorded, and then the cloud
does not take note of it. -/
theorem Operation.minimal_unnoted : ∃ e s,
    Operation.minimal.Comes .reliableStore .full (.done (.error e)) s ∧
      s.doc.currentVmCid = "vm-1" ∧ s.doc.disks = [] ∧
      s.doc.stemcells = [⟨"1", "stemcell", "1", "stemcell-1"⟩] := by
  let c := Conduct.reliableStore
  have loads (s : Surroundings) (kept : s.doc.directorId ≠ "" → "director" = s.doc.directorId) :=
    c.answers_load s _ kept
  have named (s : Surroundings) (new : "3" ∉ s.ids) : c.Answers s .freshId "3" (s.issued "3") :=
    c.answers_freshId s (by decide) new
  have creates {agentId stemcell : String} {properties networks env : Properties}
      {disks : List String} (s : Surroundings) (unused : "vm-1" ∉ s.seen .vm) :
      c.Answers s (.cloud (.createVm agentId stemcell properties disks networks env)) (.ok "vm-1")
        (s.served (.createVm agentId stemcell properties disks networks env) "vm-1") := by
    refine ⟨?_, rfl⟩
    rintro kind cid created
    cases created
    exact unused
  exact ⟨_, _, .next (c.answers_report _ _) <| .next (c.answers_report _ _) <|
    .next (loads _ fun _ => rfl) <| .next (c.answers_report _ _) <|
    .next (c.answers_report _ _) <| .next (c.answers_report _ _) <|
    .next (loads _ fun _ => rfl) <| .next (c.answers_report _ _) <|
    .next (loads _ fun _ => rfl) <| .next (named _ (by decide)) <|
    .next (creates _ (by decide)) <| .next (loads _ fun _ => rfl) <| .next (c.answers_save _ _) <|
    .next (c.answers_refused _ ⟨"set_vm_metadata", .other, "timed out"⟩ trivial rfl) <|
    .next (c.answers_report _ _) <| .here _ _, rfl, rfl, rfl⟩

/-- Nothing is left of the first deployment but the stemcell, and of the second one its machine as
well, in the cloud and in the document. -/
theorem cloud_matches_records_full :
    (∃ e, Operation.minimal.Comes .reliableStore .empty (.done (.error e)) .full) ∧
      (Surroundings.full.cloud .vm = ∅ ∧ Surroundings.full.cloud .disk = ∅ ∧
        Surroundings.full.cloud .stemcell = {"stemcell-1"}) ∧
      ∃ e s, Operation.minimal.Comes .reliableStore .full (.done (.error e)) s ∧
        s.cloud .vm = {"vm-1"} ∧ s.cloud .disk = ∅ ∧ s.cloud .stemcell = {"stemcell-1"} := by
  obtain ⟨e, ran⟩ := Operation.minimal_full
  obtain ⟨-, ended⟩ := cloud_matches_records (.start _) ran
  obtain ⟨e', s, again, machine, disks, stemcells⟩ := Operation.minimal_unnoted
  have history : History .reliableStore (fun _ => True) .empty .full := .run (.start _) trivial ran
  obtain ⟨-, ended'⟩ := cloud_matches_records history again
  obtain ⟨vms, disks', stemcells'⟩ := ended' _ rfl
  rw [machine, if_neg (by decide)] at vms
  rw [disks] at disks'
  rw [stemcells] at stemcells'
  exact ⟨⟨e, ran⟩, ended _ rfl, e', s, again, vms, disks', stemcells'⟩

end Reconciler
