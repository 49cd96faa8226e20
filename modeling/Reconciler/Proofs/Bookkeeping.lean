import Reconciler.Proofs.DiskRuns
import Reconciler.Proofs.MachineRuns
import Reconciler.Proofs.Operations
import Reconciler.Proofs.ReleaseRuns
import Reconciler.Proofs.StemcellRuns

/-!
The books of a workspace. They are in order when records can be told apart and pointers have their
records. Where the store works and the cloud is honest they balance as well: the cloud has exactly
what is recorded. A run that fails there leaves them in order, and without trouble none fails.
-/
namespace Reconciler

open Engine Repository

/-- The cloud does not lie about what it has, and the store does not fail. -/
structure Conduct.Faithful (c : Conduct) : Prop where
  honest : c.honest
  stores : ¬c.StoreFails

/-- The cloud has the machine that is recorded, and no other. -/
structure MachinePart.Accounted (m : MachinePart) : Prop where
  there : m.there = if m.current = "" then ∅ else {m.current}
  unnamed : "" ∈ m.seen

/-- The books of the machine. A cloud that is honest has no other machine than the recorded one. -/
structure MachinePart.Orderly (c : Conduct) (m : MachinePart) : Prop where
  unnamed : c.honest → "" ∈ m.seen
  covered : c.honest → ∀ cid ∈ m.there, cid ≠ "" ∧ cid = m.current
  stocked : c.Faithful → m.current ≠ "" → m.current ∈ m.there

variable {c : Conduct} {s t u : Surroundings}

/-- Records that fit together, and a cloud that has what they say. An honest cloud has nothing else,
but where the conduct is not faithful something may be missing from it. -/
structure Shelf.Orderly {ρ : Type} [Recorded ρ] (c : Conduct) (ids : Finset String)
    (d : Shelf ρ) : Prop where
  regular : d.Regular ids
  covered : c.honest → d.Covered
  stocked : c.Faithful → d.Stocked

namespace Shelf.Orderly

open Recorded

variable {ρ : Type} [Recorded ρ] {d : Shelf ρ} {ids ids' : Finset String} {record : ρ}

theorem mono (orderly : d.Orderly c ids) (more : ids ⊆ ids') : d.Orderly c ids' :=
  { orderly with regular := orderly.regular.mono more }

theorem accounted (orderly : d.Orderly c ids) (faithful : c.Faithful) : d.Accounted :=
  (orderly.covered faithful.honest).accounted (orderly.stocked faithful)

/-- What is recorded is there. -/
theorem there (orderly : d.Orderly c ids) (member : record ∈ d.records) (faithful : c.Faithful) :
    cloudId record ∈ d.there := orderly.stocked faithful record member

theorem add (orderly : d.Orderly c ids) (named : recordId record ≠ "")
    (newId : recordId record ∉ ids)
    (unused : cloudId record ∉ d.seen) (more : ids ⊆ ids') (known : recordId record ∈ ids') :
    (d.add record).Orderly c ids' where
  regular := orderly.regular.add named newId unused more known
  covered honest := (orderly.covered honest).add record
  stocked faithful := (orderly.stocked faithful).add record

theorem pointTo (orderly : d.Orderly c ids) (member : record ∈ d.records) :
    { d with pointer := recordId record }.Orderly c ids where
  regular := orderly.regular.pointTo member
  covered := orderly.covered
  stocked := orderly.stocked

theorem unpoint (orderly : d.Orderly c ids) : { d with pointer := "" }.Orderly c ids where
  regular := orderly.regular.unpoint
  covered := orderly.covered
  stocked := orderly.stocked

/-- A record goes with its resource. -/
theorem remove {left : Finset String} (orderly : d.Orderly c ids) (member : record ∈ d.records)
    (gone : c.honest → left = d.there.erase (cloudId record)) :
    { d.remove (recordId record) with there := left }.Orderly c ids where
  regular := (orderly.regular.remove _).withThere _
  covered honest := by
    rw [gone honest]
    exact (orderly.covered honest).remove orderly.regular member
  stocked faithful := by
    rw [gone faithful.honest]
    exact (orderly.stocked faithful).remove orderly.regular member

theorem forget {cid : String} {left : Finset String} (orderly : d.Orderly c ids)
    (gone : c.honest → left = d.there.erase cid) :
    { d.forget cid with there := left }.Orderly c ids := by
  cases found : d.records.find? (cloudId · == cid) with
  | some record =>
    have same : cloudId record = cid := by simpa using List.find?_some found
    rw [Shelf.forget_some found]
    exact orderly.remove (List.mem_of_find?_eq_some found) fun honest => same ▸ gone honest
  | none =>
    rw [Shelf.forget_none found]
    have kept (honest : c.honest) : left = d.there := by
      rw [gone honest, Finset.erase_eq_of_notMem ((orderly.covered honest).absent found)]
    refine ⟨orderly.regular.withThere _, fun honest => ?_, fun faithful => ?_⟩
    · rw [kept honest]
      exact orderly.covered honest
    · rw [kept faithful.honest]
      exact orderly.stocked faithful

end Shelf.Orderly

theorem MachinePart.Orderly.accounted {m : MachinePart} (orderly : m.Orderly c)
    (faithful : c.Faithful) : m.Accounted where
  unnamed := orderly.unnamed faithful.honest
  there := by
    have covered := orderly.covered faithful.honest
    split
    case isTrue none =>
      exact Finset.eq_empty_of_forall_notMem fun cid there =>
        (covered cid there).1 ((covered cid there).2.trans none)
    case isFalse named =>
      exact Finset.eq_singleton_iff_unique_mem.mpr
        ⟨orderly.stocked faithful named, fun cid there => (covered cid there).2⟩

/-- The books of one part are in order. -/
def Part.Orderly (c : Conduct) : Part → Surroundings → Prop
  | .machine, s => s.machine.Orderly c
  | .disks, s => s.disks.Orderly c s.ids
  | .stemcells, s => s.stemcells.Orderly c s.ids
  | .releases, s => s.releases.Regular s.ids
  | .director, _ => True

theorem Part.Orderly.same {p : Part} (orderly : p.Orderly c s) (same : p.Same s t)
    (ids : s.ids ⊆ t.ids) : p.Orderly c t := by
  cases p with
  | machine =>
    change t.machine.Orderly c
    rw [show t.machine = s.machine from same]
    exact orderly
  | disks =>
    change t.disks.Orderly c t.ids
    rw [same.1]
    exact orderly.mono ids
  | stemcells =>
    change t.stemcells.Orderly c t.ids
    rw [show t.stemcells = s.stemcells from same]
    exact orderly.mono ids
  | releases =>
    change t.releases.Regular t.ids
    rw [show t.releases = s.releases from same]
    exact orderly.mono ids
  | director => trivial

namespace Surroundings

/-- All books are in order. -/
def Orderly (c : Conduct) (s : Surroundings) : Prop := ∀ p : Part, p.Orderly c s

/-- A failure where the store works and the cloud is honest: the books are in order, and it took
trouble to fail. -/
def Interrupted (c : Conduct) (s : Surroundings) : Prop := c.Faithful → s.Orderly c ∧ c.Troubled

theorem Interrupted.ofStoreFails (fails : c.StoreFails) : s.Interrupted c :=
  fun faithful => absurd fails faithful.stores

namespace Orderly

theorem machine (orderly : s.Orderly c) (faithful : c.Faithful) : s.machine.Accounted :=
  MachinePart.Orderly.accounted (orderly .machine) faithful

theorem disks (orderly : s.Orderly c) : s.disks.Orderly c s.ids := orderly .disks

theorem stemcells (orderly : s.Orderly c) : s.stemcells.Orderly c s.ids := orderly .stemcells

theorem releases (orderly : s.Orderly c) : s.releases.Regular s.ids := orderly .releases

/-- Only what was touched has to be looked at again. -/
theorem frame {parts : List Part} (orderly : s.Orderly c) (frame : Frame parts s t)
    (touched : ∀ p ∈ parts, p.Orderly c t) : t.Orderly c := by
  intro p
  by_cases member : p ∈ parts
  · exact touched p member
  · exact (orderly p).same (frame.same p member) frame.ids

theorem same (orderly : s.Orderly c) (frame : Frame [] s t) : t.Orderly c :=
  orderly.frame frame (by simp)

theorem touching {p : Part} (orderly : s.Orderly c) (frame : Frame [p] s t)
    (touched : p.Orderly c t) : t.Orderly c := orderly.frame frame (by simpa using touched)

/-- A part that was touched may turn out the same. -/
theorem sameDisks (orderly : s.Orderly c) (frame : Frame [.disks] s t) (disks : t.disks = s.disks) :
    t.Orderly c := by
  apply orderly.touching frame
  change t.disks.Orderly c t.ids
  rw [disks]
  exact orderly.disks.mono frame.ids

theorem sameStemcells (orderly : s.Orderly c) (frame : Frame [.stemcells] s t)
    (stemcells : t.stemcells = s.stemcells) : t.Orderly c := by
  apply orderly.touching frame
  change t.stemcells.Orderly c t.ids
  rw [stemcells]
  exact orderly.stemcells.mono frame.ids

/-- A run starts with a list of calls of its own. -/
theorem begin (orderly : s.Orderly c) : s.begin.Orderly c := by
  intro p
  cases p with
  | machine =>
    have machine : s.machine.Orderly c := orderly .machine
    exact ⟨machine.unnamed, machine.covered, machine.stocked⟩
  | disks => exact orderly .disks
  | stemcells => exact orderly .stemcells
  | releases => exact orderly .releases
  | director => trivial

end Orderly

theorem empty_orderly : empty.Orderly c := by
  intro p
  cases p with
  | machine => exact ⟨fun _ => Finset.mem_singleton_self _, nofun, fun _ named => absurd rfl named⟩
  | disks => exact ⟨⟨.nil, nofun, nofun, .nil, nofun, .inl rfl⟩, nofun, nofun⟩
  | stemcells => exact ⟨⟨.nil, nofun, nofun, .nil, nofun, .inl rfl⟩, nofun, nofun⟩
  | releases => exact ⟨.nil, nofun⟩
  | director => trivial

end Surroundings

/-- A machine is only made where there is none. -/
def Guard.oneVm (c : Conduct) : Guard
  | s, .cloud (.createVm ..) => c.Faithful → s.cloud .vm = ∅
  | _, _ => True

theorem Guard.oneVm_of_spares {r : Request} (spared : Part.machine.Spares s r) : oneVm c s r := by
  cases r with
  | cloud call =>
    cases call with
    | createVm => exact absurd rfl spared
    | _ => trivial
  | _ => trivial

/-- What leaves the machine alone keeps to the guard, whatever else is known of it. -/
theorem Engine.Touches.oneVm {α : Type} {parts : List Part} {x : Engine α}
    {ok : α → Surroundings → Prop} {err : Failure → Surroundings → Prop}
    (touches : x.Touches parts) (other : .machine ∉ parts) (valid : Meets c .none s x ok err) :
    Meets c (.oneVm c) s x (fun a t => ok a t ∧ Frame parts s t)
      fun e t => err e t ∧ Frame parts s t :=
  touches.framed ((touches.heeds other fun _ _ => Guard.oneVm_of_spares).under valid)

open Surroundings

variable {stage : Stage}

/-- Quiet programs leave the books as they are. -/
theorem Engine.Quiet.orderly {α : Type} {x : Engine α} (quiet : x.Quiet) (orderly : s.Orderly c) :
    Meets c (.oneVm c) s x (fun _ t => Frame [] s t) fun _ => Interrupted c :=
  (quiet.meets c _ s).weaken (fun _ _ h => h) fun _ _ h _ => ⟨orderly.same h.1, h.2⟩

/-- Only a store can stop a look at the document. -/
theorem Engine.Meets.interrupted {α : Type} {x : Engine α} {ok : α → Surroundings → Prop}
    {g : Guard} (valid : Meets c g s x ok fun _ t => c.StoreFails ∧ Frame [] s t) :
    Meets c g s x ok fun _ => Interrupted c :=
  valid.weaken (fun _ _ h => h) fun _ _ lost => .ofStoreFails lost.1

theorem DiskRecord.deleteInStep_orderly {disk : DiskRecord} {step : String}
    (orderly : s.Orderly c) :
    Meets c (.oneVm c) s (disk.deleteInStep stage step)
      (fun _ t => t.Orderly c ∧ DiskDeleted c disk.cid s t ∧ Frame [.disks] s t)
      fun _ t => c.Faithful → t.Orderly c ∧ (disk.cid ∈ s.cloud .disk → c.Troubled) := by
  have deletion := (disk.deleteInStep_touches stage step).framed
    (deleteInStep_meets (c := c) (g := .oneVm c) (s := s) trivial fun _ _ _ _ _ => trivial)
  apply deletion.weaken
  · intro _ t gone
    obtain ⟨deleted, frame⟩ := gone
    refine ⟨orderly.touching frame ?_, deleted, frame⟩
    change t.disks.Orderly c t.ids
    rw [deleted.disks]
    exact (orderly.disks.mono frame.ids).forget deleted.gone
  · intro _ t stopped faithful
    obtain ⟨kept, frame⟩ := stopped
    exact ⟨orderly.sameDisks frame (kept.same faithful.stores), kept.cause faithful.stores⟩

theorem StemcellRecord.deleteInStep_orderly {stemcell : StemcellRecord} {step : String}
    (orderly : s.Orderly c) (member : stemcell ∈ s.stemcells.records) :
    Meets c (.oneVm c) s (stemcell.deleteInStep stage step)
      (fun _ t => t.Orderly c ∧ stemcell.Deleted c s t ∧ Frame [.stemcells] s t)
      fun _ => Interrupted c := by
  have deletion := (stemcell.deleteInStep_touches stage step).oneVm (by decide)
    (deleteInStep_meets (c := c) (s := s))
  apply deletion.weaken
  · intro _ t gone
    obtain ⟨deleted, frame⟩ := gone
    refine ⟨orderly.touching frame ?_, deleted, frame⟩
    change t.stemcells.Orderly c t.ids
    rw [deleted.stemcells]
    exact (orderly.stemcells.mono frame.ids).remove member deleted.gone
  · intro _ t stopped faithful
    obtain ⟨kept, frame⟩ := stopped
    obtain ⟨same, cause⟩ := kept faithful.stores
    exact ⟨orderly.sameStemcells frame same, cause (orderly.stemcells.there member faithful)⟩

/-- Of the disks the current one stays, and the cloud keeps no other. -/
theorem Disks.deleteUnused_orderly (orderly : s.Orderly c) :
    Meets c (.oneVm c) s (deleteUnused stage)
      (fun _ t => t.Orderly c ∧ t.disks.records = s.disks.current.toList ∧
        t.disks.current = s.disks.current ∧ t.attachments = s.attachments)
      fun _ => Interrupted c := by
  unfold deleteUnused
  apply Meets.bind (Meets.inContext findUnused_meets.interrupted)
  intro unused t looked
  obtain ⟨rfl, frame⟩ := looked
  let P (left : List DiskRecord) (u : Surroundings) := u.Orderly c ∧
    u.disks.Sweeping s.disks.current left u.ids ∧ u.attachments = s.attachments
  have start : P (s.disks.records.filter fun r => s.disks.current.all (·.id != r.id)) t := by
    refine ⟨orderly.same frame, ?_, frame.attachments⟩
    rw [frame.disks]
    exact orderly.disks.regular.sweeping.mono frame.ids
  refine (Meets.forEach (P := P) start ?_).weaken
    (fun _ u h => ⟨h.1, h.2.1.done, h.2.1.current, h.2.2⟩) fun _ _ h => h
  intro disk left u between
  obtain ⟨orderly, sweeping, attachments⟩ := between
  have there (faithful : c.Faithful) : disk.cid ∈ u.cloud .disk :=
    orderly.disks.there sweeping.member faithful
  apply (DiskRecord.deleteInStep_orderly orderly).weaken
  · intro _ v deletion
    obtain ⟨orderly', deleted, frame'⟩ := deletion
    refine ⟨orderly', ?_, deleted.attachments.trans attachments⟩
    rw [deleted.disks, show u.disks.forget disk.cid = _ from
      orderly.disks.regular.forget_eq sweeping.member]
    exact (sweeping.remove.withThere _).mono frame'.ids
  · exact fun _ v h faithful => ⟨(h faithful).1, (h faithful).2 (there faithful)⟩

/-- Of the stemcells the current one stays, and the cloud keeps no other. -/
theorem Stemcells.deleteUnused_orderly (orderly : s.Orderly c) :
    Meets c (.oneVm c) s (deleteUnused stage)
      (fun _ t => t.Orderly c ∧ t.stemcells.records = s.stemcells.current.toList ∧
        t.stemcells.current = s.stemcells.current)
      fun _ => Interrupted c := by
  unfold deleteUnused
  apply Meets.bind (Meets.inContext findUnused_meets.interrupted)
  intro unused t looked
  obtain ⟨rfl, frame⟩ := looked
  let P (left : List StemcellRecord) (u : Surroundings) := u.Orderly c ∧
    u.stemcells.Sweeping s.stemcells.current left u.ids
  have start :
      P (s.stemcells.records.filter fun r => s.stemcells.current.all (·.id != r.id)) t := by
    refine ⟨orderly.same frame, ?_⟩
    rw [frame.stemcells]
    exact orderly.stemcells.regular.sweeping.mono frame.ids
  refine (Meets.forEach (P := P) start ?_).weaken
    (fun _ u h => ⟨h.1, h.2.done, h.2.current⟩) fun _ _ h => h
  intro stemcell left u between
  obtain ⟨orderly, sweeping⟩ := between
  refine (StemcellRecord.deleteInStep_orderly orderly sweeping.member).weaken ?_ fun _ _ h => h
  intro _ v deletion
  obtain ⟨orderly', deleted, frame'⟩ := deletion
  refine ⟨orderly', ?_⟩
  rw [deleted.stemcells]
  exact (sweeping.remove.withThere _).mono frame'.ids

theorem Releases.record_orderly {releases : List ReleaseRef} (orderly : s.Orderly c) :
    Meets c (.oneVm c) s (record releases)
      (fun _ t => t.Orderly c ∧ ReleasesRecorded releases t ∧ Frame [.releases] s t)
      fun _ => Interrupted c := by
  have recording := (record_touches releases).oneVm (by decide)
    (record_meets (c := c) orderly.releases)
  apply recording.weaken
  · intro _ t listed
    obtain ⟨noted, frame⟩ := listed
    exact ⟨orderly.touching frame noted.regular, noted.recorded, frame⟩
  · exact fun _ _ lost => .ofStoreFails lost.1.1

/-- Of the releases the current ones stay. -/
theorem Releases.deleteUnused_orderly (orderly : s.Orderly c) :
    Meets c (.oneVm c) s (deleteUnused stage)
      (fun _ t => t.Orderly c ∧ t.releases = ⟨s.doc.currentReleases, s.doc.currentReleaseIds⟩ ∧
        Frame [.releases] s t)
      fun _ => Interrupted c := by
  have pruning := (deleteUnused_touches stage).oneVm (by decide)
    (deleteUnused_meets (c := c) (s := s))
  apply pruning.weaken
  · intro _ t pruned
    obtain ⟨done, frame⟩ := pruned
    refine ⟨orderly.touching frame ?_, done, frame⟩
    change t.releases.Regular t.ids
    rw [done]
    exact (orderly.releases.fewer List.filter_sublist _).mono frame.ids
  · exact fun _ _ lost => .ofStoreFails lost.1

/-- Cleaning up deletes what nothing uses. -/
theorem Deployment.cleanUp_orderly (orderly : s.Orderly c) :
    Meets c (.oneVm c) s (cleanUp stage)
      (fun _ t => t.Orderly c ∧ t.disks.records = s.disks.current.toList ∧
        t.stemcells.records = s.stemcells.current.toList)
      fun _ => Interrupted c := by
  unfold cleanUp
  apply Meets.bind (Meets.inContext
    ((Disks.deleteUnused_touches stage).returns (Disks.deleteUnused_orderly orderly)))
  intro _ t swept
  obtain ⟨⟨orderly₁, disks, -⟩, frame₁⟩ := swept
  apply Meets.bind (Meets.inContext
    ((Stemcells.deleteUnused_touches stage).returns (Stemcells.deleteUnused_orderly orderly₁)))
  intro _ u swept
  obtain ⟨⟨orderly₂, stemcells, -⟩, frame₂⟩ := swept
  refine Meets.inContext ((Releases.deleteUnused_orderly orderly₂).weaken ?_ fun _ _ h => h)
  intro _ v pruned
  obtain ⟨orderly₃, -, frame₃⟩ := pruned
  refine ⟨orderly₃, ?_, ?_⟩
  · rw [frame₃.disks_of (by decide), frame₂.disks_of (by decide), disks]
  · rw [frame₃.stemcells_of (by decide), stemcells, frame₁.stemcells_of (by decide)]

end Reconciler
