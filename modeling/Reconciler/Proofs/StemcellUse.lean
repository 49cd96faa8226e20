import Reconciler.Proofs.Resumption

/-!
The stemcell of the machine that is deployed. A machine is recorded as soon as it is made, and its
stemcell becomes the current one right after that, unless the cloud could not be told about the
machine. From then on the two go together, so that cleaning up spares the stemcell.
-/
namespace Reconciler

open Engine

/-- Among these exchanges the machine was made from the stemcell. -/
def MadeFrom (calls : List Exchange) (vm stemcell : String) : Prop :=
  ∃ agentId properties disks networks env,
    ⟨.cloud (.createVm agentId stemcell properties disks networks env), .ok vm⟩ ∈ calls

theorem Undescribed.mono {calls calls' : List Exchange} {vm : String}
    (undescribed : Undescribed calls vm) (more : calls ⊆ calls') : Undescribed calls' vm := by
  obtain ⟨metadata, error, kind, told⟩ := undescribed
  exact ⟨metadata, error, kind, more told⟩

/-- A history from a new workspace, with all that was asked in it. -/
inductive Chronicle (c : Conduct) : List Exchange → Surroundings → Prop
  | start : Chronicle c [] .empty
  | run {log : List Exchange} {s t : Surroundings} {operation : Operation}
      {result : Except Failure Unit} (before : Chronicle c log s)
      (ran : operation.Comes c s (.done result) t) : Chronicle c (log ++ t.calls) t

theorem MachinePart.vm?_cid {m : MachinePart} {vm : Vm} (recorded : m.vm? = some vm) :
    vm.cid = m.current := by
  unfold vm? at recorded
  split at recorded
  · cases recorded
  · cases recorded
    rfl

namespace Surroundings

/-- The recorded machine was made from a stemcell such as is told, or else the cloud was not told
about the machine. -/
structure RunsFrom (log : List Exchange) (origin : String → Prop) (s : Surroundings) : Prop where
  regular : s.stemcells.Regular s.ids
  unnamed : "" ∈ s.seen .vm
  seen : ∀ vm stemcell, MadeFrom (log ++ s.calls) vm stemcell → vm ∈ s.seen .vm ∧ vm ≠ ""
  origin : ∀ vm stemcell, s.machine.vm? = some vm → MadeFrom (log ++ s.calls) vm.cid stemcell →
    Undescribed (log ++ s.calls) vm.cid ∨ origin stemcell

def IsCurrentStemcell (s : Surroundings) (cid : String) : Prop :=
  ∃ record, s.stemcells.current = some record ∧ record.cid = cid

/-- The stemcell of the recorded machine is the current one. -/
abbrev Rooted (log : List Exchange) (s : Surroundings) : Prop := s.RunsFrom log s.IsCurrentStemcell

variable {log : List Exchange} {origin origin' : String → Prop} {s t : Surroundings}
  {parts : List Part}

/-- What was made since is told by the machines that were made. -/
theorem madeFrom_since {vm stemcell : String} {new : List String} (frame : Frame parts s t)
    (made : t.machine.made = s.machine.made ++ new)
    (later : MadeFrom (log ++ t.calls) vm stemcell) :
    MadeFrom (log ++ s.calls) vm stemcell ∨ vm ∈ new := by
  obtain ⟨agentId, properties, disks, networks, env, member⟩ := later
  obtain ⟨since, calls⟩ := frame.calls
  have told : since.filterMap Exchange.made = new := by
    simpa [machine, ← calls] using made
  rw [← calls, ← List.append_assoc, List.mem_append] at member
  cases member with
  | inl old => exact .inl ⟨agentId, properties, disks, networks, env, old⟩
  | inr recent =>
    rw [← told]
    exact .inr (List.mem_filterMap.mpr ⟨_, recent, rfl⟩)

namespace RunsFrom

/-- Where no machine was made, it is enough to look at the one that is recorded. -/
theorem kept (runs : s.RunsFrom log origin) (frame : Frame parts s t)
    (made : t.machine.made = s.machine.made) (regular : t.stemcells.Regular t.ids)
    (follows : ∀ vm, t.machine.vm? = some vm → s.machine.vm? = some vm ∧
      ∀ stemcell, origin stemcell → origin' stemcell) : t.RunsFrom log origin' := by
  have before {vm stemcell : String} (later : MadeFrom (log ++ t.calls) vm stemcell) :
      MadeFrom (log ++ s.calls) vm stemcell :=
    (madeFrom_since frame (made.trans (List.append_nil _).symm) later).resolve_right
      List.not_mem_nil
  have more : log ++ s.calls <+: log ++ t.calls :=
    (List.prefix_append_right_inj log).mpr frame.calls
  refine ⟨regular, frame.seen .vm runs.unnamed, fun vm stemcell later => ?_,
    fun vm stemcell recorded later => ?_⟩
  · obtain ⟨seen, named⟩ := runs.seen vm stemcell (before later)
    exact ⟨frame.seen .vm seen, named⟩
  · obtain ⟨recorded', follows⟩ := follows vm recorded
    cases runs.origin vm stemcell recorded' (before later) with
    | inl undescribed => exact .inl (undescribed.mono more.subset)
    | inr known => exact .inr (follows stemcell known)

/-- A machine that was made now is from the stemcell that machines are made of now. -/
theorem ofMade {vm : Vm} {stemcell : String} (runs : s.RunsFrom log origin) (made : VmMade vm s t)
    (frame : Frame [.machine] s t)
    (making : ∀ vm other, MadeFrom (log ++ t.calls) vm other →
      MadeFrom (log ++ s.calls) vm other ∨ other = stemcell) :
    t.RunsFrom log (· = stemcell) := by
  have stemcells := frame.stemcells_of (by decide)
  refine ⟨?_, frame.seen .vm runs.unnamed, fun other origin later => ?_,
    fun other origin recorded later => ?_⟩
  · rw [stemcells]
    exact runs.regular.mono frame.ids
  · cases madeFrom_since frame (congrArg MachinePart.made made.machine) later with
    | inl old =>
      obtain ⟨seen, named⟩ := runs.seen other origin old
      exact ⟨frame.seen .vm seen, named⟩
    | inr new =>
      have seen : t.seen .vm = insert vm.cid (s.seen .vm) := congrArg MachinePart.seen made.machine
      rw [List.mem_singleton.mp new, seen]
      exact ⟨Finset.mem_insert_self _ _, fun none => made.unused (none ▸ runs.unnamed)⟩
  · have same : other.cid = vm.cid := by
      have current : t.machine.current = vm.cid := by rw [made.machine]
      rw [← current, MachinePart.vm?_cid recorded]
    cases making other.cid origin later with
    | inl old => exact absurd (same ▸ (runs.seen other.cid origin old).1) made.unused
    | inr now => exact .inr now

/-- Of a machine that was not described nothing needs to be known. -/
theorem ofUndescribed (runs : s.RunsFrom log origin)
    (undescribed : Undescribed s.calls s.machine.current) : s.RunsFrom log origin' := by
  refine ⟨runs.regular, runs.unnamed, runs.seen, fun vm stemcell recorded later => .inl ?_⟩
  rw [← MachinePart.vm?_cid recorded] at undescribed
  exact undescribed.mono (List.subset_append_right _ _)

end RunsFrom

namespace Rooted

theorem unchanged (rooted : s.Rooted log) (frame : Frame parts s t)
    (machine : t.machine = s.machine) (stemcells : t.stemcells = s.stemcells) : t.Rooted log := by
  refine rooted.kept frame (by rw [machine]) ?_ fun vm recorded => ⟨machine ▸ recorded, ?_⟩
  · rw [stemcells]
    exact rooted.regular.mono frame.ids
  · unfold IsCurrentStemcell
    rw [stemcells]
    exact fun _ => id

theorem same (rooted : s.Rooted log) (frame : Frame parts s t) (machine : .machine ∉ parts)
    (stemcells : .stemcells ∉ parts) : t.Rooted log :=
  rooted.unchanged frame (frame.machine_of machine) (frame.stemcells_of stemcells)

/-- Where only stemcells are touched, the current one has to stay. -/
theorem touching (rooted : s.Rooted log) (frame : Frame [.stemcells] s t)
    (regular : t.stemcells.Regular t.ids)
    (current : ∀ record, s.stemcells.current = some record → t.stemcells.current = some record) :
    t.Rooted log := by
  have machine := frame.machine_of (by decide)
  refine rooted.kept frame (by rw [machine]) regular fun vm recorded => ⟨machine ▸ recorded, ?_⟩
  rintro cid ⟨record, now, same⟩
  exact ⟨record, current record now, same⟩

/-- Where no machine is recorded, stemcells may come and go. -/
theorem vacant (rooted : s.Rooted log) (frame : Frame parts s t)
    (made : t.machine.made = s.machine.made) (regular : t.stemcells.Regular t.ids)
    (none : t.machine.vm? = none) : t.Rooted log := by
  refine rooted.kept frame made regular fun vm recorded => ?_
  cases none.symm.trans recorded

end Rooted

end Surroundings

open Surroundings

variable {c : Conduct} {log : List Exchange} {s t : Surroundings} {stage : Stage}

theorem Engine.Touches.keepsRooted {α : Type} {x : Engine α} {parts : List Part}
    (touches : x.Touches parts) (machine : .machine ∉ parts) (stemcells : .stemcells ∉ parts) :
    Keeps c .none (Rooted log) x := by
  refine fun s rooted => touches.tracks.unguarded.weaken ?_ ?_
  · exact fun _ _ frame => rooted.same frame machine stemcells
  · exact fun _ _ frame => rooted.same frame machine stemcells

/-- The same where no machine is recorded. -/
theorem Engine.Touches.keepsVacant {α : Type} {x : Engine α} {parts : List Part}
    (touches : x.Touches parts) (machine : .machine ∉ parts) (stemcells : .stemcells ∉ parts) :
    Keeps c .none (fun t => t.Rooted log ∧ t.machine.vm? = none) x := by
  rintro s ⟨rooted, none⟩
  have kept (t : Surroundings) (frame : Frame parts s t) :
      t.Rooted log ∧ t.machine.vm? = Option.none :=
    ⟨rooted.same frame machine stemcells, by rw [frame.machine_of machine, none]⟩
  exact touches.tracks.unguarded.weaken (fun _ => kept) fun _ => kept

/-- Where a machine was deleted none is recorded, and its stemcell is still recorded. -/
structure Cleared (log : List Exchange) (s t : Surroundings) : Prop where
  rooted : t.Rooted log
  vacant : t.machine.vm? = none
  records : t.stemcells.records = s.stemcells.records

theorem Vm.deleteInStep_rooted {vm : Vm} {name : String} {reason : Failure → String}
    (stores : ¬c.StoreFails) (rooted : s.Rooted log) :
    Meets c .none s (performStep stage name (skipIfGone .vmNotFound reason vm.delete))
      (fun _ t => Cleared log s t) fun _ t => t.Rooted log := by
  have deletion := (vm.deleteInStep_touches stage name reason).framed
    (vm.deleteInStep_meets (c := c) (g := .none) (s := s) trivial fun _ _ => trivial)
  apply deletion.weaken
  · intro _ t gone
    obtain ⟨deleted, frame⟩ := gone
    have none : t.machine.vm? = Option.none := by simp [deleted.machine, MachinePart.vm?]
    refine ⟨rooted.vacant frame (by rw [deleted.machine]) ?_ none, none, ?_⟩
    · rw [deleted.stemcells]
      exact (rooted.regular.mono frame.ids).unpoint
    · rw [deleted.stemcells]
  · intro _ t stopped
    obtain ⟨kept, frame⟩ := stopped
    obtain ⟨machine, stemcells, -⟩ := kept stores
    exact rooted.unchanged frame machine stemcells

theorem Cleared.after {u : Surroundings} (cleared : Cleared log t u) (before : Frame [] s t) :
    Cleared log s u where
  rooted := cleared.rooted
  vacant := cleared.vacant
  records := cleared.records.trans (congrArg Shelf.records before.stemcells)

theorem Instance.delete_rooted {i : Instance} {timeout delay : Nat} {skipDrain : Bool}
    (stores : ¬c.StoreFails) (rooted : s.Rooted log) :
    Meets c .none s ((delete timeout delay skipDrain stage).toEngine i)
      (fun _ t => Cleared log s t) fun _ t => t.Rooted log := by
  apply i.delete_meets stage
  · intro t before
    have rooted' := rooted.same before List.not_mem_nil List.not_mem_nil
    apply (i.vm.deleteInStep_rooted stores rooted').weaken
    · exact fun _ u cleared _ => cleared.after before
    · exact fun _ _ h => h
  · exact fun _ t frame _ => rooted.same frame List.not_mem_nil List.not_mem_nil

namespace Instances

/-- The instances of the machines that are recorded are deleted, of which there is at most one. -/
theorem deleteEach_rooted {instances : List Instance} {context : Instance → String}
    {timeout delay : Nat} {skipDrain : Bool} (stores : ¬c.StoreFails) (rooted : s.Rooted log)
    (recorded : instances.map (·.vm) = s.machine.vm?.toList) :
    Meets c .none s (forEach instances fun i => do
      discard <| within (context i) ((Instance.delete timeout delay skipDrain stage).toEngine i))
      (fun _ t => Cleared log s t) fun _ t => t.Rooted log := by
  cases machine : s.machine.vm? with
  | none =>
    have nothing : instances = [] := by simpa [machine] using recorded
    rw [nothing]
    exact Meets.pure ⟨rooted, machine, rfl⟩
  | some vm =>
    obtain ⟨i, rfl, -⟩ : ∃ i, instances = [i] ∧ i.vm = vm := by
      simpa [machine, List.map_eq_singleton_iff] using recorded
    refine Meets.bind (Meets.discard (Meets.inContext (Instance.delete_rooted stores rooted)))
      fun _ _ h => Meets.pure h

theorem deleteAll_rooted {settings : Settings} {timeout delay : Nat} {skipDrain : Bool}
    (stores : ¬c.StoreFails) (rooted : s.Rooted log) :
    Meets c .none s (deleteAll settings timeout delay skipDrain stage)
      (fun _ t => Cleared log s t) fun _ t => t.Rooted log := by
  unfold deleteAll
  apply Meets.seq findCurrent_meets (fun _ _ lost => absurd lost.1 stores)
  intro instances t looked
  obtain ⟨recorded, before⟩ := looked
  rw [← before.machine] at recorded
  have rooted' := rooted.same before List.not_mem_nil List.not_mem_nil
  apply (deleteEach_rooted stores rooted' recorded).weaken
  · exact fun _ u cleared => cleared.after before
  · exact fun _ _ h => h

end Instances

namespace Stemcells

theorem upload_rooted {extracted : ExtractedStemcell} (stores : ¬c.StoreFails)
    (rooted : s.Rooted log) :
    Meets c .none s (upload extracted stage)
      (fun record t => t.Rooted log ∧
        t.doc.findStemcell record.name record.version = some record) fun _ t => t.Rooted log := by
  have upload := (upload_touches extracted stage).framed (upload_meets (c := c) (s := s))
  apply upload.weaken
  · intro record t uploaded
    obtain ⟨uploaded, frame⟩ := uploaded
    refine ⟨?_, uploaded.found⟩
    obtain ⟨-, same⟩ | ⟨-, added, nonempty, newId, known, unused⟩ := uploaded.change
    · exact rooted.unchanged frame (frame.machine_of (by decide)) same
    · refine rooted.touching frame ?_ ?_
      · rw [added]
        exact rooted.regular.add nonempty newId unused frame.ids known
      · rw [added]
        exact fun _ now => Shelf.current_add now record
  · rintro _ t ⟨⟨same, -⟩ | fails | ⟨record, member, unseen⟩, frame⟩
    · exact rooted.unchanged frame (frame.machine_of (by decide)) same
    · exact absurd fails stores
    · exact absurd (rooted.regular.cidsSeen record member) unseen

end Stemcells

theorem MadeFrom.cases {calls : List Exchange} {e : Exchange} {vm stemcell : String}
    (made : MadeFrom (calls ++ [e]) vm stemcell) :
    MadeFrom calls vm stemcell ∨ ∃ agentId properties disks networks env,
      e = ⟨.cloud (.createVm agentId stemcell properties disks networks env), .ok vm⟩ := by
  obtain ⟨agentId, properties, disks, networks, env, member⟩ := made
  cases List.mem_append.mp member with
  | inl old => exact .inl ⟨agentId, properties, disks, networks, env, old⟩
  | inr new =>
    exact .inr ⟨agentId, properties, disks, networks, env, (List.mem_singleton.mp new).symm⟩

/-- Machines are made from this stemcell alone. -/
def Guard.makingFrom (stemcell : String) : Guard
  | _, .cloud (.createVm _ other ..) => other = stemcell
  | _, _ => True

theorem Conduct.Answers.madeFrom {r : Request} {reply : r.Reply} {vm stemcell other : String}
    (answered : c.Answers s r reply t) (guarded : ¬r.IsQuiet → Guard.makingFrom stemcell s r)
    (later : MadeFrom (log ++ t.calls) vm other) :
    MadeFrom (log ++ s.calls) vm other ∨ other = stemcell := by
  obtain same | more := answered.noted
  · rw [same] at later
    exact .inl later
  · rw [more, ← List.append_assoc] at later
    obtain old | ⟨_, _, _, _, _, same⟩ := later.cases
    · exact .inl old
    · cases same
      exact .inr (guarded id)

theorem Engine.Heeds.madeFrom {α : Type} {x : Engine α} {stemcell : String}
    (heeds : x.Heeds (.makingFrom stemcell)) (log : List Exchange) :
    Meets c .none s x
      (fun _ t => ∀ vm other, MadeFrom (log ++ t.calls) vm other →
        MadeFrom (log ++ s.calls) vm other ∨ other = stemcell)
      fun _ t => ∀ vm other, MadeFrom (log ++ t.calls) vm other →
        MadeFrom (log ++ s.calls) vm other ∨ other = stemcell := by
  let R (s t : Surroundings) := ∀ vm other, MadeFrom (log ++ t.calls) vm other →
    MadeFrom (log ++ s.calls) vm other ∨ other = stemcell
  have kept := (heeds s trivial).ofAny (c := c)
  have tracked := kept.tracks (R := R) (fun s vm other => .inl) ?_ ?_
  · refine Meets.unguarded (g := .makingFrom stemcell) (tracked.weaken fun result t h => ?_)
    cases result with
    | ok a => exact h.2
    | error e => exact h.2
  · intro s t u first second vm other later
    obtain old | same := second vm other later
    · exact first vm other old
    · exact .inr same
  · exact fun s r reply t answered safe vm other => answered.madeFrom safe

namespace Vms

/-- A machine that was made and recorded is from the stemcell that it was asked from. -/
theorem create_runsFrom {stemcell : StemcellRecord} {manifest : Manifest} (stores : ¬c.StoreFails)
    (rooted : s.Rooted log) :
    Meets c .none s (create stemcell manifest)
      (fun _ t => t.RunsFrom log (· = stemcell.cid) ∧ Frame [.machine] s t)
      fun _ t => t.Rooted log := by
  have asks : (create stemcell manifest).Heeds (.makingFrom stemcell.cid) :=
    create_heeds stemcell manifest (fun _ _ _ _ _ _ => rfl) fun _ =>
      Repository.update_heeds fun _ => trivial
  have creation := (create_touches stemcell manifest).framed ((asks.madeFrom log).and
    (create_meets (c := c) (g := .none) (s := s) (fun _ _ _ _ _ _ _ => trivial) fun _ _ => trivial))
  apply creation.weaken
  · rintro _ t ⟨⟨making, made⟩, frame⟩
    exact ⟨rooted.ofMade made frame making, frame⟩
  · intro _ t stopped
    obtain ⟨⟨making, failed⟩, frame⟩ := stopped
    obtain ⟨vm, made, -, undescribed⟩ | ⟨same, -⟩ := failed stores
    · have current : t.machine.current = vm.cid := by rw [made.machine]
      rw [← current] at undescribed
      exact (rooted.ofMade made frame making).ofUndescribed undescribed
    · exact rooted.unchanged frame same (frame.stemcells_of (by decide))

end Vms

/-- With its stemcell the machine is complete. -/
theorem StemcellRecord.promote_rooted {stemcell : StemcellRecord} (stores : ¬c.StoreFails)
    (runs : s.RunsFrom log (· = stemcell.cid))
    (found : s.doc.findStemcell stemcell.name stemcell.version = some stemcell) :
    Meets c .none s stemcell.promote (fun _ t => t.Rooted log) fun _ t => t.Rooted log := by
  have recorded : stemcell ∈ s.stemcells.records := (Document.findStemcell_eq found).1
  have promotion := stemcell.promote_touches.framed (promote_meets (c := c) (s := s))
  apply promotion.weaken
  · intro _ t pointed
    obtain ⟨⟨record, same, stemcells⟩, frame⟩ := pointed
    cases found.symm.trans same
    have machine := frame.machine_of (by decide)
    have current : t.stemcells.current = some stemcell := by
      rw [stemcells]
      exact runs.regular.current_pointTo recorded
    refine runs.kept frame (by rw [machine]) ?_ fun vm recorded => ⟨machine ▸ recorded, ?_⟩
    · rw [stemcells]
      exact (runs.regular.mono frame.ids).pointTo recorded
    · exact fun _ same => ⟨stemcell, current, same.symm⟩
  · rintro _ t ⟨⟨-, fails | absent⟩, -⟩
    · exact absurd fails stores
    · cases found.symm.trans absent

theorem Instances.create_rooted {settings : Settings} {jobName : String} {index : UInt32}
    {manifest : Manifest} {stemcell : StemcellRecord} {registry : RegistryConfig}
    {tunnel : SshTunnelConfig} (stores : ¬c.StoreFails) (rooted : s.Rooted log)
    (found : s.doc.findStemcell stemcell.name stemcell.version = some stemcell) :
    Meets c .none s (create settings jobName index manifest stemcell registry tunnel stage)
      (fun _ t => t.Rooted log) fun _ t => t.Rooted log := by
  unfold create
  refine Meets.bind (Q := fun _ t => t.Rooted log) (Meets.runStep ?_) fun _ t rooted₁ => ?_
  · apply Meets.bind (Meets.inContext (Vms.create_runsFrom stores rooted))
    rintro _ t ⟨runs, frame⟩
    have found₁ : t.doc.findStemcell stemcell.name stemcell.version = some stemcell :=
      (Surroundings.findStemcell_congr (frame.stemcells_of (by decide))).trans found
    apply Meets.bind (Meets.inContext (StemcellRecord.promote_rooted stores runs found₁))
    exact fun _ _ h => Meets.pure h
  apply Meets.seq (Meets.inContext Instance.awaitReady_meets)
  · exact fun _ u stopped => rooted₁.same stopped.1 List.not_mem_nil List.not_mem_nil
  rintro ⟨_, i⟩ u ⟨-, -, frame⟩
  have rooted₂ := rooted₁.same frame List.not_mem_nil List.not_mem_nil
  have updates : Keeps c .none (Rooted log)
      ((Instance.updateDisks manifest stage).toEngine i) :=
    (i.updateDisks_touches stage manifest).keepsRooted (by decide) (by decide)
  exact Meets.bind (Meets.inContext (updates u rooted₂)) fun _ _ h => Meets.pure h

namespace Stemcells

/-- Of the stemcells the current one stays. -/
theorem deleteUnused_rooted (stores : ¬c.StoreFails) : Keeps c .none (Rooted log)
    (deleteUnused stage) := by
  intro s rooted
  let Sweeps (t : Surroundings) := ∃ left, t.stemcells.Sweeping s.stemcells.current left t.ids
  have sweeps : Meets c .none s (deleteUnused stage) (fun _ => Sweeps) fun _ => Sweeps := by
    unfold deleteUnused
    apply Meets.seq (Meets.inContext findUnused_meets) (fun _ _ lost => absurd lost.1 stores)
    intro _ t looked
    obtain ⟨rfl, frame⟩ := looked
    let P (left : List StemcellRecord) (u : Surroundings) :=
      u.stemcells.Sweeping s.stemcells.current left u.ids
    refine (Meets.forEach (P := P) ?_ fun stemcell left u sweeping => ?_).weaken
      (fun _ u done => ⟨[], done⟩) fun _ _ h => h
    · change t.stemcells.Sweeping _ _ _
      rw [frame.stemcells]
      exact rooted.regular.sweeping.mono frame.ids
    · have deletion := (stemcell.deleteInStep_touches stage
        s!"Deleting unused stemcell '{stemcell.cid}'").framed
        (stemcell.deleteInStep_meets (c := c) (s := u))
      apply deletion.weaken
      · intro _ v h
        obtain ⟨deleted, frame⟩ := h
        change v.stemcells.Sweeping _ _ _
        rw [deleted.stemcells]
        exact (sweeping.remove.withThere _).mono frame.ids
      · intro _ v h
        obtain ⟨kept, frame⟩ := h
        refine ⟨stemcell :: left, ?_⟩
        rw [(kept stores).1]
        exact sweeping.mono frame.ids
  apply ((deleteUnused_touches stage).framed sweeps).weaken
  · rintro _ t ⟨⟨left, sweeping⟩, frame⟩
    refine rooted.touching frame sweeping.regular fun record now => ?_
    rw [sweeping.current, now]
  · rintro _ t ⟨⟨left, sweeping⟩, frame⟩
    refine rooted.touching frame sweeping.regular fun record now => ?_
    rw [sweeping.current, now]

end Stemcells

/-- With no machine recorded a stemcell may go. -/
theorem StemcellRecord.deleteInStep_vacant {stemcell : StemcellRecord} {step : String}
    (stores : ¬c.StoreFails) : Keeps c .none (fun t => t.Rooted log ∧ t.machine.vm? = none)
      (stemcell.deleteInStep stage step) := by
  rintro s ⟨rooted, none⟩
  have deletion := (stemcell.deleteInStep_touches stage step).framed
    (stemcell.deleteInStep_meets (c := c) (s := s))
  apply deletion.weaken
  · rintro _ t ⟨deleted, frame⟩
    have machine := frame.machine_of (by decide)
    have none' : t.machine.vm? = Option.none := by rw [machine, none]
    refine ⟨rooted.vacant frame (by rw [machine]) ?_ none', none'⟩
    rw [deleted.stemcells]
    exact ((rooted.regular.remove _).withThere _).mono frame.ids
  · rintro _ t ⟨kept, frame⟩
    have machine := frame.machine_of (by decide)
    exact ⟨rooted.unchanged frame machine (kept stores).1, by rw [machine, none]⟩

namespace Deployment

theorem deploy_rooted {settings : Settings} {manifest : Manifest} {extracted : ExtractedStemcell}
    {registry : RegistryConfig} {tunnel : SshTunnelConfig} (stores : ¬c.StoreFails) :
    Keeps c .none (Rooted log) (deploy settings manifest extracted registry tunnel) := by
  intro s rooted
  unfold deploy
  apply Meets.bind (Keeps.valid _ s rooted)
  intro job t₁ rooted₁
  apply Meets.bind (Keeps.report _ t₁ rooted₁)
  intro _ t₂ rooted₂
  apply Meets.bind (Meets.inContext (Stemcells.upload_rooted stores rooted₂))
  rintro stemcell t₃ ⟨rooted₃, found⟩
  apply Meets.bind (Q := fun _ t => t₃ = t) (Meets.report rfl)
  rintro _ _ rfl
  apply Meets.bind (Q := fun _ t => t₃ = t) (Meets.report rfl)
  rintro _ _ rfl
  apply Meets.bind (Instances.deleteAll_rooted stores rooted₃)
  intro _ t₄ cleared
  have found' : t₄.doc.findStemcell stemcell.name stemcell.version = some stemcell := by
    rw [← found]
    change t₄.stemcells.records.find? _ = t₃.stemcells.records.find? _
    rw [cleared.records]
  apply Meets.bind (Meets.inContext (Instances.create_rooted stores cleared.rooted found'))
  intro result t₅ rooted₅
  have jobs (deploying : Stage) : Touches [] ((Instance.updateJobs manifest deploying).toEngine
      result.1) := Heeds.ofQuiet (Instance.updateJobs_quiet _ _ _)
  apply Meets.bind (Keeps.discard ((jobs _).keepsRooted List.not_mem_nil List.not_mem_nil) t₅
    rooted₅)
  intro _ t₆ rooted₆
  apply Meets.bind (Keeps.discard (Keeps.within
    ((Releases.record_touches _).keepsRooted (by decide) (by decide))) t₆ rooted₆)
  intro _ t₇ rooted₇
  apply Meets.bind (Stemcells.deleteUnused_rooted stores t₇ rooted₇)
  intro _ t₈ rooted₈
  apply Meets.bind ((Releases.deleteUnused_touches _).keepsRooted (by decide) (by decide) t₈
    rooted₈)
  intro _ t₉ rooted₉
  exact Keeps.report _ t₉ rooted₉

theorem cleanUp_rooted (stores : ¬c.StoreFails) : Keeps c .none (Rooted log) (cleanUp stage) := by
  apply Keeps.bind
  · exact Keeps.within ((Disks.deleteUnused_touches stage).keepsRooted (by decide) (by decide))
  intro _
  apply Keeps.bind (Keeps.within (Stemcells.deleteUnused_rooted stores))
  intro _
  exact Keeps.within ((Releases.deleteUnused_touches stage).keepsRooted (by decide) (by decide))

/-- The stemcell goes after the machine. -/
theorem delete_rooted {deployment : Deployment} (stores : ¬c.StoreFails) (rooted : s.Rooted log)
    (found : deployment.FoundIn s) :
    Meets c .none s ((delete stage).toEngine deployment) (fun _ t => t.Rooted log)
      fun _ t => t.Rooted log := by
  rw [delete_toEngine]
  have reversed : deployment.instances.reverse.map (·.vm) = s.machine.vm?.toList := by
    rw [List.map_reverse, found.instances]
    cases s.machine.vm? <;> rfl
  apply Meets.bind (Instances.deleteEach_rooted stores rooted reversed)
  intro _ t₁ cleared
  have disks : Keeps c .none (fun t => t.Rooted log ∧ t.machine.vm? = none)
      (forEach deployment.disks.reverse fun disk =>
        disk.deleteInStep stage s!"Deleting disk '{disk.cid}'") :=
    Keeps.forEach fun disk =>
      (disk.deleteInStep_touches stage _).keepsVacant (by decide) (by decide)
  apply Meets.seq (disks t₁ ⟨cleared.rooted, cleared.vacant⟩) (fun _ _ h => h.1)
  intro _ t₂ vacant
  have stemcells : Keeps c .none (fun t => t.Rooted log ∧ t.machine.vm? = none)
      (forEach deployment.stemcells.reverse fun stemcell =>
        stemcell.deleteInStep stage s!"Deleting stemcell '{stemcell.cid}'") :=
    Keeps.forEach fun stemcell => stemcell.deleteInStep_vacant stores
  apply Meets.seq (stemcells t₂ vacant) (fun _ _ h => h.1)
  exact fun _ _ h => Meets.pure h.1

end Deployment

/-- Wherever an operation stops, the stemcell of the machine is current. -/
theorem Operation.rooted {operation : Operation} (stores : ¬c.StoreFails) :
    Keeps c .none (Rooted log) operation.program := by
  cases operation with
  | deploy => exact Deployment.deploy_rooted stores
  | cleanUp => exact Deployment.cleanUp_rooted stores
  | delete settings stage =>
    intro s rooted
    apply Meets.seq Deployment.findCurrent_meets (fun _ _ lost => absurd lost.1 stores)
    rintro _ t ⟨before, deployment, found, rfl⟩
    have rooted' := rooted.same before List.not_mem_nil List.not_mem_nil
    cases deployment.isEmpty with
    | true => exact Meets.pure rooted'
    | false => exact Meets.discard (Deployment.delete_rooted stores rooted' (found.same before))

theorem Surroundings.Rooted.begin (rooted : s.Rooted log) : s.begin.Rooted (log ++ s.calls) := by
  have calls : (log ++ s.calls) ++ s.begin.calls = log ++ s.calls := List.append_nil _
  refine ⟨rooted.regular, rooted.unnamed, ?_, ?_⟩
  · rw [calls]
    exact rooted.seen
  · rw [calls]
    exact rooted.origin

theorem Chronicle.rooted (stores : ¬c.StoreFails) (chronicle : Chronicle c log s) :
    s.begin.Rooted log := by
  induction chronicle with
  | start => exact ⟨(empty_orderly (c := c)).stemcells.regular,
    Finset.mem_singleton_self _, nofun, nofun⟩
  | @run log s t operation result _ ran ih =>
    have ended := Program.Meets.ends (Operation.rooted stores s.begin ih) ran
    cases result with
    | ok => exact Rooted.begin ended
    | error => exact Rooted.begin ended

/-- Deletes no stemcell of this cid. -/
def Guard.sparingStemcell (cid : String) : Guard := fun _ r => r ≠ .cloud (.deleteStemcell cid)

theorem Guard.sparingStemcell_of_spares {cid : String} (s : Surroundings) (r : Request)
    (spared : Part.stemcells.Spares s r) : sparingStemcell cid s r := by
  rintro rfl
  exact spared rfl

/-- While a stemcell is current only others are deleted. -/
theorem Stemcells.deleteUnused_spares {cid : String} (regular : s.stemcells.Regular s.ids)
    (current : s.IsCurrentStemcell cid) :
    Meets c (.sparingStemcell cid) s (deleteUnused stage) (fun _ _ => True) fun _ _ => True := by
  unfold deleteUnused
  apply Meets.seq (Meets.inContext findUnused_meets) (fun _ _ _ => trivial)
  rintro _ t ⟨rfl, -⟩
  obtain ⟨record, now, rfl⟩ := current
  refine Meets.forEachKept trivial fun stemcell member u _ => ?_
  obtain ⟨recorded, unused⟩ := List.mem_filter.mp member
  have different : record.id ≠ stemcell.id := by simpa [now] using unused
  have other := regular.cids_ne (Shelf.current_mem now) recorded different
  have spares : (stemcell.deleteInStep stage s!"Deleting unused stemcell '{stemcell.cid}'").Heeds
      (.sparingStemcell record.cid) := by
    refine stemcell.deleteInStep_heeds stage _ (fun _ same => ?_)
      (Repository.update_heeds fun _ => nofun)
    simp only [Request.cloud.injEq, CloudCall.deleteStemcell.injEq] at same
    exact other same.symm
  exact (spares u trivial).ofAny

/-- Cleaning up deletes no stemcell that is current. -/
theorem Deployment.cleanUp_spares {cid : String} (regular : s.stemcells.Regular s.ids)
    (current : s.IsCurrentStemcell cid) :
    Meets c (.sparingStemcell cid) s (cleanUp stage) (fun _ _ => True) fun _ _ => True := by
  unfold cleanUp
  have elsewhere {x : Engine Unit} {parts : List Part} (other : .stemcells ∉ parts)
      (touches : x.Touches parts) (u : Surroundings) :
      Meets c (.sparingStemcell cid) u x (fun _ v => Frame parts u v) fun _ _ => True :=
    ((touches.heeds other Guard.sparingStemcell_of_spares).under touches.tracks).weaken
      (fun _ _ h => h) fun _ _ _ => trivial
  apply Meets.bind (Meets.inContext (elsewhere (by decide) (Disks.deleteUnused_touches stage) s))
  intro _ t frame
  have stemcells := frame.stemcells_of (by decide)
  apply Meets.bind (Meets.inContext (Stemcells.deleteUnused_spares (s := t) ?_ ?_))
  · intro _ u _
    exact Meets.inContext ((elsewhere (by decide) (Releases.deleteUnused_touches stage) u).weaken
      (fun _ _ _ => trivial) fun _ _ _ => trivial)
  · rw [stemcells]
    exact regular.mono frame.ids
  · unfold IsCurrentStemcell
    rwa [stemcells]

/-- In every history with a store that works: the machine that is recorded keeps the stemcell that
it was made from. Unless the cloud failed to take note of the machine, no cleanup asks for the
stemcell to be deleted, up to any of its moments. -/
theorem cleanUp_spares_stemcell {stemcell : String} {left : Program Effects (Except Failure Unit)}
    (stores : ¬c.StoreFails) (chronicle : Chronicle c log s)
    (made : MadeFrom log s.doc.currentVmCid stemcell)
    (described : ¬Undescribed log s.doc.currentVmCid)
    (moment : (Operation.cleanUp stage).Comes c s left t) :
    ∀ e ∈ t.calls, e.request ≠ .cloud (.deleteStemcell stemcell) := by
  have rooted := chronicle.rooted stores
  have calls : log ++ s.begin.calls = log := List.append_nil log
  have seen := rooted.seen s.doc.currentVmCid stemcell
  have origin := rooted.origin ⟨s.doc.currentVmCid⟩ stemcell
  rw [calls] at seen origin
  have recorded : s.begin.machine.vm? = some ⟨s.doc.currentVmCid⟩ := by
    have named : s.doc.currentVmCid ≠ "" := (seen made).2
    simp [MachinePart.vm?, Surroundings.machine, Surroundings.begin, named]
  have current : s.begin.IsCurrentStemcell stemcell :=
    (origin recorded made).resolve_left described
  have spares : Meets c (.sparingStemcell stemcell) s.begin (Operation.cleanUp stage).program _ _ :=
    Deployment.cleanUp_spares rooted.regular current
  refine Program.Meets.always
    (fun u => ∀ e ∈ u.calls, e.request ≠ .cloud (.deleteStemcell stemcell)) spares moment
    (fun _ member => absurd member List.not_mem_nil) ?_
  intro u r reply v answered safe spared e member
  obtain same | more := answered.noted
  · exact spared e (same ▸ member)
  · rw [more] at member
    cases List.mem_append.mp member with
    | inl old => exact spared e old
    | inr new =>
      rw [List.mem_singleton.mp new]
      rintro rfl
      exact safe id rfl

/-- Smooth surroundings whose cloud takes note of its machines. -/
def Conduct.noting : Behaviour Effects Surroundings := fun s r reply t =>
  smooth.Answers s r reply t ∧ ∀ cid metadata error,
    (⟨r, reply⟩ : Exchange) ≠ ⟨.cloud (.setVmMetadata cid metadata), .error error⟩

theorem Conduct.noting_total (s : Surroundings) (r : Request) : ∃ reply t, noting s r reply t := by
  by_cases told : ∃ cid metadata, r = .cloud (.setVmMetadata cid metadata)
  · obtain ⟨cid, metadata, rfl⟩ := told
    exact ⟨.ok (), s.served (.setVmMetadata cid metadata) (), ⟨nofun, rfl⟩, nofun⟩
  · obtain ⟨reply, t, answered⟩ := smooth_total s r
    refine ⟨reply, t, answered, fun cid metadata error same => told ⟨cid, metadata, ?_⟩⟩
    exact congrArg Exchange.request same

/-- Nothing was noted of a machine that the cloud did not take note of. -/
theorem Program.Reaches.described {α : Type} {p left : Program Effects α} {vm : String}
    (reached : p.Reaches Conduct.noting s left t) (described : ¬Undescribed s.calls vm) :
    ¬Undescribed t.calls vm := by
  induction reached with
  | here => exact described
  | @next r rest reply last s t u answered later ih =>
    refine ih fun undescribed => ?_
    obtain same | more := answered.1.noted
    · exact described (same ▸ undescribed)
    · obtain ⟨metadata, error, kind, member⟩ := undescribed
      rw [more] at member
      cases List.mem_append.mp member with
      | inl old => exact described ⟨metadata, error, kind, old⟩
      | inr new => exact answered.2 vm metadata error (List.mem_singleton.mp new).symm

theorem Surroundings.madeFrom_of_made {vm : String} (made : vm ∈ s.machine.made) :
    ∃ stemcell, MadeFrom s.calls vm stemcell := by
  obtain ⟨e, member, told⟩ := List.mem_filterMap.mp made
  unfold Exchange.made at told
  split at told
  · cases told
    exact ⟨_, _, _, _, _, _, member⟩
  · cases told

/-- The stemcell of a first deployment is left alone when it is cleaned up after that. -/
theorem cleanUp_spares_stemcell_deployed : ∃ log s t stemcell,
    Chronicle .smooth log s ∧ MadeFrom log s.doc.currentVmCid stemcell ∧
      ¬Undescribed log s.doc.currentVmCid ∧
      (Operation.cleanUp ⟨"cleaning"⟩).Comes .smooth s (.done (.ok ())) t ∧
      ∀ e ∈ t.calls, e.request ≠ .cloud (.deleteStemcell stemcell) := by
  obtain ⟨result, s, ran⟩ := Operation.minimal.program.run.exists_done Conduct.noting_total
    Surroundings.empty.begin
  have ran' : Operation.minimal.Comes .smooth .empty (.done result) s :=
    ran.mono fun _ _ _ _ => And.left
  obtain rfl : result = .ok () :=
    (Operation.deploy_ends _ _ _ _ empty_orderly Manifest.minimal_resolves).ends ran'
  obtain ⟨orderly, deployed⟩ := (Deployment.deploy_orderly empty_orderly.begin).returned ran'
  have made : s.machine.made = [s.machine.current] := deployed.machine
  obtain ⟨stemcell, madeFrom⟩ : ∃ stemcell, MadeFrom s.calls s.machine.current stemcell :=
    madeFrom_of_made (by simp [made])
  have described : ¬Undescribed s.calls s.machine.current := ran.described nofun
  have cleaning : Meets .smooth _ s.begin (Operation.cleanUp ⟨"cleaning"⟩).program _ _ :=
    Deployment.cleanUp_orderly orderly.begin
  obtain ⟨_, t, cleaned, -⟩ := cleaning.exists_returned
  have chronicle : Chronicle .smooth s.calls s := .run .start ran'
  exact ⟨s.calls, s, t, stemcell, chronicle, madeFrom, described, cleaned,
    cleanUp_spares_stemcell Conduct.not_storeFails_smooth chronicle madeFrom described cleaned⟩

end Reconciler
