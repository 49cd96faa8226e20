import Reconciler.Proofs.Convergence
import Reconciler.Proofs.InstanceDeletion
import Reconciler.Proofs.Plans

/-!
Deleting one and the same deployment again after a failure. Whatever is taken up is dropped from the
value first. So each call that fails loses what it failed at, and the next one goes on with what
comes after it, be it the disk of a machine that is still there.
-/
namespace Reconciler

open Engine Repository

/-- What there is to delete, in the order in which it is taken up. -/
def Deployment.targets (d : Deployment) : List CloudCall :=
  (d.instances.reverse.map fun i => .deleteVm i.vm.cid) ++
    ((d.disks.reverse.map fun disk => .deleteDisk disk.cid) ++
      d.stemcells.reverse.map fun stemcell => .deleteStemcell stemcell.cid)

/-- The cloud has deleted the target, or did not know it any more. -/
def Removed (calls : List Exchange) (target : CloudCall) : Prop :=
  ∃ reply, target.IsGone reply ∧ ⟨.cloud target, reply⟩ ∈ calls

/-- Nothing else is to be deleted. -/
def About (target : CloudCall) (calls : List Exchange) : Prop :=
  ∀ e ∈ calls, ∀ call, e.request = .cloud call → call.deleted ≠ none → call = target

/-- Targets are taken up one after the other. Each is removed, or lost. -/
inductive Works : List CloudCall → List Exchange → List CloudCall → Prop
  | done : Works [] [] []
  | removed {target : CloudCall} {rest lost : List CloudCall} {calls later : List Exchange}
      (about : About target calls) (removed : Removed calls target)
      (others : Works rest later lost) : Works (target :: rest) (calls ++ later) lost
  | lost {target : CloudCall} {rest lost : List CloudCall} {calls later : List Exchange}
      (about : About target calls) (others : Works rest later lost) :
      Works (target :: rest) (calls ++ later) (target :: lost)

variable {c : Conduct} {s t u : Surroundings}

theorem Removed.mono {calls more : List Exchange} {target : CloudCall}
    (removed : Removed calls target) (fewer : calls ⊆ more) : Removed more target := by
  obtain ⟨reply, gone, member⟩ := removed
  exact ⟨reply, gone, fewer member⟩

section Split

variable {α : Type} {before after first last : List α} {a : α}

theorem mem_or_split (split : before ++ after = first ++ a :: last) :
    a ∈ before ∨ ∃ middle, first = before ++ middle ∧ after = middle ++ a :: last := by
  obtain ⟨middle, rfl, rfl⟩ | ⟨middle, rfl, same⟩ := List.append_eq_append_iff.mp split
  · exact .inr ⟨middle, rfl, rfl⟩
  · cases middle with
    | nil => exact .inr ⟨[], by simp, same.symm⟩
    | cons => exact .inl (by simp_all)

/-- What is not in the front half comes behind all of it. -/
theorem subset_of_split (split : before ++ after = first ++ a :: last) (behind : a ∉ before) :
    before ⊆ first := by
  obtain member | ⟨middle, rfl, -⟩ := mem_or_split split
  · exact absurd member behind
  · exact List.subset_append_left _ _

end Split

namespace Works

variable {targets others lost lost' : List CloudCall} {calls later : List Exchange}

theorem append (first : Works targets calls lost) (second : Works others later lost') :
    Works (targets ++ others) (calls ++ later) (lost ++ lost') := by
  induction first with
  | done => exact second
  | removed about removed _ ih =>
    rw [List.append_assoc]
    exact .removed about removed ih
  | lost about _ ih =>
    rw [List.append_assoc]
    exact .lost about ih

theorem sublist (works : Works targets calls lost) : lost.Sublist targets := by
  induction works with
  | done => exact .slnil
  | removed _ _ _ ih => exact ih.cons _
  | lost _ _ ih => exact ih.cons_cons _

theorem settled (works : Works targets calls lost) {target : CloudCall}
    (member : target ∈ targets) : Removed calls target ∨ target ∈ lost := by
  induction works with
  | done => cases member
  | removed _ removed _ ih =>
    obtain rfl | member := List.mem_cons.mp member
    · exact .inl (removed.mono (List.subset_append_left _ _))
    · exact (ih member).imp_left (·.mono (List.subset_append_right _ _))
  | lost _ _ ih =>
    obtain rfl | member := List.mem_cons.mp member
    · exact .inr (List.mem_cons_self ..)
    · exact (ih member).imp (·.mono (List.subset_append_right _ _)) (List.mem_cons_of_mem _)

/-- When a deletion is asked for, all targets before it were taken up. -/
theorem before (works : Works targets calls lost) {first last : List Exchange} {call : CloudCall}
    {reply : Except CloudError call.Answer} (asked : calls = first ++ ⟨.cloud call, reply⟩ :: last)
    (deletes : call.deleted ≠ none) :
    ∃ done rest, targets = done ++ call :: rest ∧
      ∀ target ∈ done, Removed first target ∨ target ∈ lost := by
  induction works generalizing first with
  | done => simp at asked
  | @removed target rest lost calls later about removed _ ih =>
    obtain member | ⟨first, rfl, behind⟩ := mem_or_split asked
    · obtain rfl := about _ member call rfl deletes
      exact ⟨[], rest, rfl, nofun⟩
    · obtain ⟨done, rest, rfl, settled⟩ := ih behind
      refine ⟨target :: done, rest, rfl, fun other member => ?_⟩
      obtain rfl | member := List.mem_cons.mp member
      · exact .inl (removed.mono (List.subset_append_left _ _))
      · exact (settled other member).imp_left (·.mono (List.subset_append_right _ _))
  | @lost target rest lost calls later about _ ih =>
    obtain member | ⟨first, rfl, behind⟩ := mem_or_split asked
    · obtain rfl := about _ member call rfl deletes
      exact ⟨[], rest, rfl, nofun⟩
    · obtain ⟨done, rest, rfl, settled⟩ := ih behind
      refine ⟨target :: done, rest, rfl, fun other member => ?_⟩
      obtain rfl | member := List.mem_cons.mp member
      · exact .inr (List.mem_cons_self ..)
      · exact (settled other member).imp (·.mono (List.subset_append_right _ _))
          (List.mem_cons_of_mem _)

end Works

/-- How far targets were taken up, and which are left: none, or those behind one that failed. -/
def Worked (targets : List CloudCall) (s : Surroundings) :
    Except Failure Unit → List CloudCall → Surroundings → Prop
  | .ok (), left, t => left = [] ∧ ∃ calls, t.deeds = s.deeds ++ calls ∧ Works targets calls []
  | .error _, left, t => ∃ done target calls last, targets = done ++ target :: left ∧
    t.deeds = s.deeds ++ (calls ++ last) ∧ Works done calls [] ∧ About target last

namespace Worked

variable {targets others left : List CloudCall} {result : Except Failure Unit}

theorem nothing : Worked [] s (.ok ()) [] s := ⟨rfl, [], (List.append_nil _).symm, .done⟩

/-- What comes next is taken up when nothing has failed. -/
theorem append {rest : List CloudCall} (first : Worked targets s (.ok ()) rest t)
    (second : Worked others t result left u) : Worked (targets ++ others) s result left u := by
  obtain ⟨-, calls, made, works⟩ := first
  cases result with
  | ok =>
    obtain ⟨nothing, later, made', works'⟩ := second
    refine ⟨nothing, calls ++ later, ?_, works.append works'⟩
    rw [made', made, List.append_assoc]
  | error =>
    obtain ⟨done, target, later, last, rfl, made', works', about⟩ := second
    refine ⟨targets ++ done, target, calls ++ later, last, (List.append_assoc ..).symm, ?_,
      works.append works', about⟩
    rw [made', made, List.append_assoc, List.append_assoc]

theorem stopped {failure : Failure} (worked : Worked targets s (.error failure) left t)
    (others : List CloudCall) :
    Worked (targets ++ others) s (.error failure) (left ++ others) t := by
  obtain ⟨done, target, calls, last, rfl, made, works, about⟩ := worked
  exact ⟨done, target, calls, last, List.append_assoc .., made, works, about⟩

/-- A failure loses one target. -/
theorem works (worked : Worked targets s result left t) :
    ∃ taken calls lost, targets = taken ++ left ∧ t.deeds = s.deeds ++ calls ∧
      Works taken calls lost ∧ lost.length = if result.isOk then 0 else 1 := by
  cases result with
  | ok =>
    obtain ⟨rfl, calls, made, works⟩ := worked
    exact ⟨targets, calls, [], (List.append_nil _).symm, made, works, rfl⟩
  | error =>
    obtain ⟨done, target, calls, last, rfl, made, works, about⟩ := worked
    refine ⟨done ++ [target], calls ++ last, [target], by simp, made, ?_, rfl⟩
    have failed := Works.lost about .done
    rw [List.append_nil] at failed
    exact works.append failed

end Worked

/-- One attempt to delete a target. -/
def Engine.Attempts {α : Type} (c : Conduct) (x : Engine α) (target : CloudCall) : Prop :=
  ∀ s, Meets c .none s x
    (fun _ t => ∃ calls, t.deeds = s.deeds ++ calls ∧ About target calls ∧ Removed calls target)
    fun _ t => ∃ calls, t.deeds = s.deeds ++ calls ∧ About target calls

namespace Engine.Attempts

variable {α β : Type} {target : CloudCall} {x : Engine α}

theorem ofCarries (carries : ∀ s, Carries c s x (fun _ : Unit => [.delete target])
    fun _ _ _ => True) : x.Attempts c target := by
  have about {calls : List Exchange} (only : ∀ e ∈ calls, e.request = .cloud target) :
      About target calls := by
    intro e member call same _
    cases (only e member).symm.trans same
    rfl
  intro s
  apply Meets.weaken (carries s)
  · rintro _ t ⟨_, calls, made, followed, -⟩
    obtain ⟨reply, gone, rfl⟩ := followed.single
    exact ⟨_, made, about (by simp), reply, gone, List.mem_singleton_self _⟩
  · rintro _ t ⟨_, calls, made, stopped⟩
    exact ⟨calls, made, about stopped.single⟩

theorem within {context : String} (attempts : x.Attempts c target) :
    (Reconciler.within context x).Attempts c target := fun s => Meets.inContext (attempts s)

/-- What deletes nothing may come first. -/
theorem after {first : Engine α} {f : α → Engine β}
    (spares : first.Asks fun r => ∀ call, r = .cloud call → call.deleted = none)
    (attempts : ∀ a, (f a).Attempts c target) : (first >>= f).Attempts c target := by
  intro s
  have about {calls : List Exchange} (spared : ∀ e ∈ calls, e.request.isCall = true ∧
      ∀ call, e.request = .cloud call → call.deleted = none) : About target calls :=
    fun e member call same deletes => absurd ((spared e member).2 call same) deletes
  apply Meets.seq spares.grows
  · rintro _ t ⟨calls, made, spared⟩
    exact ⟨calls, made, about spared⟩
  · rintro a t ⟨calls, made, spared⟩
    apply Meets.weaken (attempts a t)
    · rintro _ u ⟨later, made', about', removed⟩
      refine ⟨calls ++ later, by rw [made', made, List.append_assoc], ?_, ?_⟩
      · exact fun e member => (List.mem_append.mp member).elim (about spared e) (about' e)
      · exact removed.mono (List.subset_append_right _ _)
    · rintro _ u ⟨later, made', about'⟩
      refine ⟨calls ++ later, by rw [made', made, List.append_assoc], ?_⟩
      exact fun e member => (List.mem_append.mp member).elim (about spared e) (about' e)

end Engine.Attempts

theorem Instance.delete_attempts (i : Instance) (timeout delay : Nat) (skipDrain : Bool)
    (stage : Stage) :
    Engine.Attempts c ((delete timeout delay skipDrain stage).toEngine i)
      (.deleteVm i.vm.cid) := by
  have asks : i.vm.isPresent.Asks fun r => ∀ call, r = .cloud call → call.deleted = none := by
    refine .within (.cloud ?_)
    rintro _ ⟨⟩
    rfl
  have talks (r : Request) (talk : r.IsTalk) : ∀ call, r = .cloud call → call.deleted = none := by
    rintro call rfl
    exact talk.elim
  have stops (present : Bool) : Asks (fun r => ∀ call, r = .cloud call → call.deleted = none)
      (if present then (shutDown timeout delay skipDrain false stage).toEngine i
        else pure ((), i)) := by
    cases present with
    | false => exact .pure _
    | true => exact shutDown_asks i stage timeout delay skipDrain false (fun _ => nofun) talks
  rw [delete_toEngine]
  apply Attempts.after asks.within
  intro present
  apply Attempts.after (stops present)
  intro r s
  refine Meets.seq (Attempts.ofCarries (fun s => i.vm.deleteInStep_calls) s) (fun _ _ h => h) ?_
  exact fun _ _ h => Meets.pure h

section Drain

variable {β γ : Type}

/-- Works off a list from the front. What comes after an item that fails is left. -/
def drain (attempt : β → Engine γ) : List β → Program Effects (Except Failure Unit × List β)
  | [] => pure (.ok (), [])
  | item :: rest => do
    match ← (attempt item).run with
    | .ok _ => drain attempt rest
    | .error failure => return (.error failure, rest)

theorem drain_worked {attempt : β → Engine γ} {target : β → CloudCall}
    (attempts : ∀ item, (attempt item).Attempts c (target item)) (items : List β) :
    (drain attempt items).Meets c.Answers Guard.none.safe
      (fun r t => Worked (items.map target) s r.1 (r.2.map target) t) s := by
  induction items generalizing s with
  | nil => exact Worked.nothing
  | cons item rest ih =>
    apply Program.Meets.bind (attempts item s)
    rintro (failure | a) t attempted
    · obtain ⟨calls, made, about⟩ := attempted
      exact ⟨[], target item, [], calls, rfl, made, .done, about⟩
    · obtain ⟨calls, made, about, removed⟩ := attempted
      have works := Works.removed about removed .done
      rw [List.append_nil] at works
      have taken : Worked [target item] s (.ok ()) [] t := ⟨rfl, calls, made, works⟩
      exact ih.weaken fun r u worked => taken.append worked

/-- A loop that takes one item after the other off the end of a list in a value. -/
theorem runOn_drain {σ : Type} {attempt : β → Engine γ} (loop : Nat → Stateful σ Unit)
    (value : List β → σ) (stop : (loop 0).runOn (value []) = pure (.ok (), value []))
    (step : ∀ items item, (loop (items.length + 1)).runOn (value (items ++ [item])) =
      ((liftM (attempt item) : Stateful σ γ) >>= fun _ => loop items.length).runOn (value items))
    (items : List β) :
    (loop items.length).runOn (value items) =
      drain attempt items.reverse >>= fun r => pure (r.1, value r.2.reverse) := by
  induction items using List.reverseRecOn with
  | nil => exact stop
  | append_singleton items item ih =>
    rw [List.length_append, List.length_singleton, step, Stateful.runOn_engine,
      List.reverse_concat, drain, bind_assoc]
    apply bind_congr
    rintro (failure | a)
    · rw [pure_bind, List.reverse_reverse]
    · exact ih

end Drain

namespace Deployment

variable {stage : Stage}

theorem runOn_deleteInstances (d : Deployment) :
    (deleteInstances stage d.instances.length).runOn d =
      drain (fun i => within s!"Deleting instance '{i.label}'"
        ((Instance.delete d.settings.pingTimeout d.settings.pingDelay d.settings.skipDrain
          stage).toEngine i)) d.instances.reverse >>=
        fun r => pure (r.1, { d with instances := r.2.reverse }) := by
  refine runOn_drain (deleteInstances stage) (fun left => { d with instances := left }) rfl ?_ _
  intro instances i
  simp only [deleteInstances, Stateful.runOn_get, List.getLast?_concat, Stateful.runOn_modify,
    List.dropLast_concat, discard_bind]

theorem runOn_deleteDisks (d : Deployment) :
    (deleteDisks stage d.disks.length).runOn d =
      drain (fun disk => disk.deleteInStep stage s!"Deleting disk '{disk.cid}'") d.disks.reverse >>=
        fun r => pure (r.1, { d with disks := r.2.reverse }) := by
  refine runOn_drain (deleteDisks stage) (fun left => { d with disks := left }) rfl ?_ _
  intro disks disk
  simp only [deleteDisks, Stateful.runOn_get, List.getLast?_concat, Stateful.runOn_modify,
    List.dropLast_concat]

theorem runOn_deleteStemcells (d : Deployment) :
    (deleteStemcells stage d.stemcells.length).runOn d =
      drain (fun stemcell => stemcell.deleteInStep stage s!"Deleting stemcell '{stemcell.cid}'")
        d.stemcells.reverse >>= fun r => pure (r.1, { d with stemcells := r.2.reverse }) := by
  refine runOn_drain (deleteStemcells stage) (fun left => { d with stemcells := left }) rfl ?_ _
  intro stemcells stemcell
  simp only [deleteStemcells, Stateful.runOn_get, List.getLast?_concat, Stateful.runOn_modify,
    List.dropLast_concat]

/-- One call of the deletion. -/
theorem delete_worked (d : Deployment) :
    ((delete stage).runOn d).Meets c.Answers Guard.none.safe
      (fun r t => Worked d.targets s r.1 r.2.targets t) s := by
  rw [delete, Stateful.runOn_get, Stateful.runOn_bind, runOn_deleteInstances, bind_assoc]
  apply Program.Meets.bind (drain_worked (fun i => (i.delete_attempts _ _ _ _).within)
    d.instances.reverse)
  rintro ⟨failure | ⟨⟩, instances⟩ t first
  · change Worked _ s (.error failure) (targets { d with instances := instances.reverse }) t
    rw [targets, targets, List.reverse_reverse]
    exact first.stopped _
  obtain rfl : instances = [] := List.map_eq_nil_iff.mp first.1
  rw [pure_bind]
  dsimp only [List.reverse_nil]
  rw [Stateful.runOn_get, Stateful.runOn_bind, runOn_deleteDisks, bind_assoc]
  apply Program.Meets.bind (drain_worked (fun disk => .ofCarries fun s => disk.deleteInStep_calls)
    d.disks.reverse)
  rintro ⟨failure | ⟨⟩, disks⟩ u second
  · change Worked _ s (.error failure)
      (targets { d with instances := [], disks := disks.reverse }) u
    rw [targets, targets, List.reverse_reverse]
    exact first.append (second.stopped _)
  obtain rfl : disks = [] := List.map_eq_nil_iff.mp second.1
  rw [pure_bind]
  dsimp only [List.reverse_nil]
  rw [Stateful.runOn_get, runOn_deleteStemcells]
  apply Program.Meets.bind (drain_worked
    (fun stemcell => .ofCarries fun s => stemcell.deleteInStep_calls) d.stemcells.reverse)
  rintro ⟨result, stemcells⟩ v third
  change Worked _ s result
    (targets { d with instances := [], disks := [], stemcells := stemcells.reverse }) v
  rw [targets, targets, List.reverse_reverse]
  exact first.append (second.append third)

/-- One call after the other on one and the same value: how many have failed, what is left in the
value, and what has become of the surroundings. -/
inductive Retried (c : Conduct) (d : Deployment) (s : Surroundings) :
    Nat → Deployment → Surroundings → Prop
  | start : Retried c d s 0 d s
  | again {failures : Nat} {left left' : Deployment} {t u : Surroundings} {stage : Stage}
      {result : Except Failure Unit} (before : Retried c d s failures left t)
      (ran : ((delete stage).runOn left).Reaches c.Answers t (.done (result, left')) u) :
      Retried c d s (failures + if result.isOk then 0 else 1) left' u

variable {d left : Deployment} {failures : Nat}

theorem Retried.works (retried : Retried c d s failures left t) :
    ∃ taken calls lost, d.targets = taken ++ left.targets ∧ t.deeds = s.deeds ++ calls ∧
      Works taken calls lost ∧ lost.length = failures := by
  induction retried with
  | start => exact ⟨[], [], [], rfl, (List.append_nil _).symm, .done, rfl⟩
  | again _ ran ih =>
    obtain ⟨taken, calls, lost, split, made, works, count⟩ := ih
    have worked := Program.Meets.ends (delete_worked _) ran
    obtain ⟨taken', later, lost', split', made', works', count'⟩ := worked.works
    refine ⟨taken ++ taken', calls ++ later, lost ++ lost', ?_, ?_, works.append works', ?_⟩
    · rw [split, split', List.append_assoc]
    · rw [made', made, List.append_assoc]
    · rw [List.length_append, count, count']

/-- Whatever fails, in however many calls on one value, targets are taken up from the front and the
others stay in the value. Each call that fails loses one. All others were removed, the machines
before the first disk was to be deleted and the disks before the first stemcell was. When one more
call returns, nothing is left. When it fails, it has lost what it failed at, removed what came
before that and left what comes behind. -/
theorem delete_retried (retried : Retried c d s.begin failures left t) :
    ∃ taken lost : List CloudCall, d.targets = taken ++ left.targets ∧ lost.Sublist taken ∧
      lost.length = failures ∧ (∀ target ∈ taken, Removed t.deeds target ∨ target ∈ lost) ∧
      (∀ first last cid reply, t.deeds = first ++ ⟨.cloud (.deleteDisk cid), reply⟩ :: last →
        ∀ i ∈ d.instances,
          Removed first (.deleteVm i.vm.cid) ∨ CloudCall.deleteVm i.vm.cid ∈ lost) ∧
      (∀ first last cid reply, t.deeds = first ++ ⟨.cloud (.deleteStemcell cid), reply⟩ :: last →
        ∀ disk ∈ d.disks,
          Removed first (.deleteDisk disk.cid) ∨ CloudCall.deleteDisk disk.cid ∈ lost) ∧
      ∀ stage result left' u,
        ((delete stage).runOn left).Reaches c.Answers t (.done (result, left')) u →
          match result with
          | .ok () =>
            left'.targets = [] ∧ ∀ target ∈ d.targets, Removed u.deeds target ∨ target ∈ lost
          | .error _ => ∃ done target, left.targets = done ++ target :: left'.targets ∧
            ∀ other ∈ done, Removed u.deeds other := by
  obtain ⟨taken, calls, lost, split, made, works, count⟩ := retried.works
  obtain rfl : t.deeds = calls := made
  refine ⟨taken, lost, split, works.sublist, count, fun _ => works.settled, ?_, ?_, ?_⟩
  · intro first last cid reply asked i member
    obtain ⟨done, rest, rfl, settled⟩ := works.before asked nofun
    rw [List.append_assoc] at split
    refine settled _ (subset_of_split split (by simp) ?_)
    exact List.mem_map_of_mem (List.mem_reverse.mpr member)
  · intro first last cid reply asked disk member
    obtain ⟨done, rest, rfl, settled⟩ := works.before asked nofun
    rw [targets, ← List.append_assoc, List.append_assoc done] at split
    refine settled _ (subset_of_split split (by simp) (List.mem_append_right _ ?_))
    exact List.mem_map_of_mem (List.mem_reverse.mpr member)
  · intro stage result left' u ran
    have worked := Program.Meets.ends (delete_worked _) ran
    cases result with
    | ok =>
      obtain ⟨nothing, later, made, works'⟩ := worked
      refine ⟨nothing, fun target member => ?_⟩
      rw [made]
      have settled := (works.append works').settled (split ▸ member)
      rwa [List.append_nil] at settled
    | error =>
      obtain ⟨done, target, later, last, split', made, works', -⟩ := worked
      refine ⟨done, target, split', fun other member => ?_⟩
      rw [made]
      have removed := (works'.settled member).resolve_right List.not_mem_nil
      exact removed.mono fun e among => List.mem_append_right _ (List.mem_append_left _ among)

/-- The cloud cannot tell whether the machine is there, and so the first call fails. The second one
deletes the disk and the stemcell under that machine and returns. -/
theorem delete_retried_running : ∃ d left left' v t u,
    (findCurrent .standard).run.Reaches Conduct.reliableStore.Answers
      Surroundings.leftover.begin (.done (.ok (some d))) v ∧
    Retried .reliableStore d v.begin 1 left t ∧
    ((delete ⟨"deleting"⟩).runOn left).Reaches Conduct.reliableStore.Answers t
      (.done (.ok (), left')) u ∧
    u.deeds.map (·.request) = [.cloud (.hasVm "vm"), .cloud (.deleteDisk "old"),
      .cloud (.deleteStemcell "stemcell-0")] ∧
    "vm" ∈ u.cloud .vm ∧ left'.targets = [] ∧ ∃ lost : List CloudCall, lost.length = 1 ∧
      ∀ target ∈ [.deleteVm "vm", .deleteDisk "old", .deleteStemcell "stemcell-0"],
        Removed u.deeds target ∨ target ∈ lost := by
  let c := Conduct.reliableStore
  have loaded (s : Surroundings) (same : s.doc.directorId = "director") :
      c.Answers s .load (.ok (s.loaded "director").doc) (s.loaded "director") :=
    c.answers_load s _ fun _ => same.symm
  let down : CloudError := ⟨"has_vm", .other, "api down"⟩
  let d : Deployment := ⟨[⟨"unknown", 0, ⟨"vm"⟩, .standard, .running⟩], [⟨"1", "old", 512, []⟩],
    [⟨"3", "stemcell", "0", "stemcell-0"⟩], .standard⟩
  let start := Surroundings.leftover.begin
  have found : (findCurrent .standard).run.Reaches c.Answers start (.done (.ok (some d))) start :=
    .next (loaded _ rfl) <| .next (loaded _ rfl) <| .next (loaded _ rfl) <| .here _ _
  have called : ∃ failure left left' t u,
      ((delete ⟨"deleting"⟩).runOn d).Reaches c.Answers start (.done (.error failure, left)) t ∧
      ((delete ⟨"deleting"⟩).runOn left).Reaches c.Answers t (.done (.ok (), left')) u ∧
      u.deeds.map (·.request) = [.cloud (.hasVm "vm"), .cloud (.deleteDisk "old"),
        .cloud (.deleteStemcell "stemcell-0")] ∧
      "vm" ∈ u.cloud .vm :=
    ⟨_, _, _, _, _, .next (c.answers_refused _ down trivial rfl) <| .here _ _,
      .next (c.answers_report _ _) <| .next (c.answers_cloud _ (.deleteDisk "old") () nofun) <|
      .next (loaded _ rfl) <| .next (loaded _ rfl) <| .next (c.answers_save _ _) <|
      .next (c.answers_report _ _) <| .next (c.answers_report _ _) <|
      .next (c.answers_cloud _ (.deleteStemcell "stemcell-0") () nofun) <|
      .next (loaded _ rfl) <| .next (c.answers_save _ _) <| .next (c.answers_report _ _) <|
      .here _ _, rfl, by decide⟩
  obtain ⟨failure, left, left', t, u, failed, returned, deeds, running⟩ := called
  have once : Retried c d start 1 left t := .again .start failed
  obtain ⟨taken, lost, -, -, count, -, -, -, ends⟩ := delete_retried once
  obtain ⟨nothing, settled⟩ := ends _ _ _ _ returned
  exact ⟨d, left, left', start, t, u, found, once, returned, deeds, running, nothing, lost, count,
    settled⟩

end Deployment

end Reconciler
