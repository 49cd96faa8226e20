import Mathlib.Data.List.Chain
import Mathlib.Data.Set.Basic
import Reconciler.Proofs.DeploymentRuns
import Reconciler.Proofs.Requests

/-!
The steps that listeners are told of. Every step that was started is closed before anything else is
told, and a run stops behind a step that failed. The one exception is the wait for the agent of a
machine that is to be deleted, stopped or started: when the agent does not answer, the operation
goes on without it.
-/
namespace Reconciler

variable {α β : Type}

/-- What listeners hear of the steps of a run, whatever the surroundings reply. -/
def Overheard : Behaviour Effects (List StepEvent) := fun heard r _ after =>
  after = match r with
    | .report (.step event) => heard ++ [event]
    | _ => heard

/-- A step that was started and came to an end, or failed with a message. -/
structure Step where
  stage : String
  name : String
  ending : Except String Outcome

namespace Step

/-- What is told of a step: that it has started and, right after that, how it ended. -/
def events (step : Step) : List StepEvent :=
  [⟨step.stage, step.name, .started, none⟩,
    match step.ending with
    | .ok .finished => ⟨step.stage, step.name, .finished, none⟩
    | .ok (.skipped reason) => ⟨step.stage, step.name, .skipped, some reason⟩
    | .error message => ⟨step.stage, step.name, .failed, some message⟩]

def Failed (step : Step) : Prop := ∃ message, step.ending = .error message

/-- The wait for the agent of a machine that is not new. -/
def AwaitsAgent (step : Step) (cid : String) : Prop :=
  step.name = s!"Waiting for the agent on VM '{cid}'"

/-- The agent of one of the machines was given up, and the machine is deleted. -/
def GivenUp (machines : Set String) (step next : Step) : Prop :=
  ∃ cid ∈ machines, step.AwaitsAgent cid ∧ next.stage = step.stage ∧
    next.name = s!"Deleting VM '{cid}'"

end Step

/-- A failed step is followed by others only where an agent was given up that is on one of the
`deleted` machines. A run that returned has no other failed steps, unless the last one is for an
agent on a machine that is `left`; the failure of a run that failed behind a step ends with the
message of the step. -/
structure WellTold (deleted left : Set String) (result : Except Failure α) (steps : List Step) :
    Prop where
  followed : steps.IsChain fun step next => step.Failed → step.GivenUp deleted next
  returned : ∀ a, result = .ok a → ∀ step ∈ steps, step.Failed →
    ∃ cid ∈ deleted ∪ left, step.AwaitsAgent cid
  failed : ∀ failure, result = .error failure → ∀ step ∈ steps.getLast?, ∀ message,
    step.ending = .error message → ∃ context, failure.text = context ++ message

/-- What is heard of every run is a list of steps, well told. -/
def Program.TellsSteps (p : Program Effects α) (result : α → Except Failure β)
    (deleted left : Set String) : Prop :=
  p.Logs Overheard fun a events => ∃ steps : List Step, events = steps.flatMap Step.events ∧
    WellTold deleted left (result a) steps

section Heard

variable {p : Program Effects α} {post : α → List StepEvent → Prop}

theorem Program.Logs.told {event : StepEvent} {next : Unit → Program Effects α}
    (later : Logs Overheard (next ()) fun a events => post a (event :: events)) :
    Logs Overheard (.ask (.report (.step event)) next) post := by
  rintro s reply _ rfl
  refine ⟨trivial, (later (s ++ [event])).weaken ?_⟩
  rintro a _ ⟨events, rfl, reached⟩
  exact ⟨event :: events, by simp, reached⟩

theorem Program.Only.unheard (only : p.Only Request.IsSilent) :
    p.Logs Overheard fun _ events => events = [] := by
  intro s
  have step (s : List StepEvent) (r : Request) (reply : r.Reply) (t : List StepEvent)
      (silent : r.IsSilent) (answered : Overheard s r reply t) : t = s := by
    cases r with
    | report => cases silent
    | _ => exact answered
  have kept := only.tracks (R := fun s t => t = s) (fun _ => rfl)
    (fun _ _ _ first second => second.trans first) step s
  exact kept.weaken fun _ _ same => ⟨[], by rw [same, List.append_nil], rfl⟩

end Heard

/-- How the last step and the run may end: a failed step that the run survives is `left` so. -/
def Concludes (left : Step → Prop) (step : Step) (message : String) : Except Failure α → Prop
  | .ok _ => left step
  | .error failure => ∃ context, failure.text = context ++ message

/-- What holds of the steps of any part of a run. -/
structure Told (machines : Set String) (left : Step → Prop) (result : Except Failure α)
    (steps : List Step) : Prop where
  followed : steps.IsChain fun step next => step.Failed → step.GivenUp machines next
  last : ∀ step ∈ steps.getLast?, ∀ message, step.ending = .error message →
    Concludes left step message result

namespace Told

variable {machines : Set String} {left handed : Step → Prop} {steps later : List Step}
  {result : Except Failure α} {step : Step}

theorem nil : Told machines left result [] := ⟨.nil, nofun⟩

theorem single (ends : ∀ message, step.ending = .error message →
    Concludes left step message result) : Told machines left result [step] := by
  refine ⟨.singleton _, ?_⟩
  rintro _ ⟨⟩
  exact ends

/-- A step that is left failed is followed up by the first one of what comes next. -/
theorem append {a : α} {result : Except Failure β} (first : Told machines handed (.ok a) steps)
    (second : Told machines left result later)
    (follow : ∀ step, handed step → ∃ next ∈ later.head?, step.GivenUp machines next) :
    Told machines left result (steps ++ later) where
  followed := by
    refine first.followed.append second.followed fun step last next head failed => ?_
    obtain ⟨message, failed⟩ := failed
    obtain ⟨_, same, given⟩ := follow step (first.last step last message failed)
    cases head.symm.trans same
    exact given
  last step last message failed := by
    rw [List.getLast?_append] at last
    cases nonempty : later.getLast? with
    | some _ =>
      rw [nonempty] at last
      exact second.last step (nonempty.trans last) message failed
    | none =>
      rw [nonempty] at last
      obtain ⟨_, same, -⟩ := follow step (first.last step last message failed)
      rw [List.getLast?_eq_none_iff.mp nonempty] at same
      cases same

theorem failed {failure : Failure}
    (told : Told machines handed (.error failure : Except _ α) steps) :
    Told machines left (.error failure : Except _ β) steps := ⟨told.followed, told.last⟩

theorem within (context : String) (told : Told machines left result steps) :
    Told machines left (result.mapError (Failure.within context)) steps where
  followed := told.followed
  last step last message failed := by
    have ends := told.last step last message failed
    cases result with
    | ok a => exact ends
    | error failure =>
      obtain ⟨inner, text⟩ := ends
      refine ⟨context ++ ": " ++ inner, ?_⟩
      change context ++ ": " ++ failure.text = _
      rw [text, ← String.append_assoc]

/-- Nothing but the wait for an agent can have failed in a run that returned. -/
theorem wellTold {left : Set String} (told : Told machines
    (fun step => ∃ cid ∈ left, step.AwaitsAgent cid) result steps) :
    WellTold machines left result steps where
  followed := told.followed
  returned := by
    rintro a rfl step member failed
    obtain ⟨before, after, rfl⟩ := List.append_of_mem member
    cases after with
    | nil =>
      obtain ⟨message, failed⟩ := failed
      obtain ⟨cid, among, awaits⟩ := told.last step (by simp) message failed
      exact ⟨cid, .inr among, awaits⟩
    | cons next after =>
      obtain ⟨-, given, -⟩ := List.isChain_append_cons_cons.mp told.followed
      obtain ⟨cid, among, awaits, -⟩ := given failed
      exact ⟨cid, .inl among, awaits⟩
  failed := by
    rintro failure rfl
    exact told.last

end Told

namespace Engine

/-- What is heard of every run of an engine program is a list of steps. -/
def Tells (machines : Set String) (left : Step → Prop) (x : Engine α) : Prop :=
  x.run.Logs Overheard fun result events => ∃ steps : List Step,
    events = steps.flatMap Step.events ∧ Told machines left result steps

variable {machines : Set String} {left handed : Step → Prop} {x : Engine α} {stage : Stage}
  {name : String}

namespace Tells

theorem silent (asks : x.Asks Request.IsSilent) : x.Tells machines left := by
  apply (Program.Only.unheard asks).weaken
  rintro result _ rfl
  exact ⟨[], rfl, .nil⟩

theorem records (asks : x.Asks Request.IsRecord) : x.Tells machines left := silent asks.ofRecords

theorem talks (asks : x.Asks Request.IsTalk) : x.Tells machines left := silent asks.ofTalk

theorem pure (a : α) : (Pure.pure a : Engine α).Tells machines left := silent (.pure a)

/-- What was left failed is followed up. -/
theorem handOver {f : α → Engine β} (first : x.Tells machines handed)
    (second : ∀ a, (f a).run.Logs Overheard fun result events => ∃ steps : List Step,
      events = steps.flatMap Step.events ∧ Told machines left result steps ∧
        ∀ step, handed step → ∃ next ∈ steps.head?, step.GivenUp machines next) :
    (x >>= f).Tells machines left := by
  apply Program.Logs.bind first
  rintro result _ ⟨steps, rfl, told⟩
  cases result with
  | ok a =>
    apply (second a).weaken
    rintro result _ ⟨later, rfl, told', follow⟩
    exact ⟨steps ++ later, List.flatMap_append.symm, told.append told' follow⟩
  | error failure => exact .done ⟨steps, List.append_nil _, told.failed⟩

theorem bind {f : α → Engine β} (first : x.Tells machines fun _ => False)
    (second : ∀ a, (f a).Tells machines left) : (x >>= f).Tells machines left := by
  apply handOver first
  intro a
  apply (second a).weaken
  rintro result events ⟨steps, same, told⟩
  exact ⟨steps, same, told, nofun⟩

theorem within {context : String} (tells : x.Tells machines left) :
    (Reconciler.within context x).Tells machines left := by
  apply Program.Logs.bind tells
  rintro result _ ⟨steps, rfl, told⟩
  exact .done ⟨steps, List.append_nil _, told.within context⟩

theorem discard (tells : x.Tells machines fun _ => False) :
    Tells machines left (discard x) := by
  simp only [Functor.discard, map_const, Function.comp_apply, map_eq_pure_bind]
  exact bind tells fun _ => pure _

theorem report {notice : Notice} (told : ∀ event, notice ≠ .step event) :
    (Reporter.report notice : Engine Unit).Tells machines left := by
  rintro s reply _ rfl
  refine ⟨trivial, [], ?_, [], rfl, .nil⟩
  cases notice with
  | step event => exact absurd rfl (told event)
  | _ => simp

theorem optional {x : Engine Unit} (skip : Bool) (tells : x.Tells machines left) :
    Tells machines left (unless skip do x) := by
  cases skip with
  | false => exact tells
  | true => exact pure ()

theorem forEach {items : List α} {action : α → Engine Unit}
    (each : ∀ item ∈ items, (action item).Tells machines fun _ => False) :
    (forEach items action).Tells machines left := by
  induction items with
  | nil => exact pure ()
  | cons item rest ih =>
    apply bind (each item (by simp))
    exact fun _ => ih fun other member => each other (by simp [member])

end Tells

/-- One step is told of, and how it ended. -/
theorem step_logs {outcome : α → Outcome} (asks : x.Asks Request.IsSilent) :
    (stage.step name outcome x).run.Logs Overheard fun result events =>
      events = Step.events ⟨stage.name, name, (result.map outcome).mapError Failure.text⟩ := by
  apply Program.Logs.told
  change Program.Logs Overheard (x.run >>= _) _
  apply (Program.Only.unheard asks).bind
  rintro result _ rfl
  apply Program.Logs.told
  refine .done ?_
  simp only [Step.events, Stage.opening, Stage.closing, Except.map, Except.mapError]
  match result with
  | .ok a =>
    cases ended : outcome a with
    | finished => simp [ended]
    | skipped => simp [ended]
  | .error failure => rfl

theorem logs_bindLift {ε : Type} {answers : Behaviour Effects (List ε)} {p : Program Effects α}
    {f : α → Engine β} {post : α → List ε → Prop} {post' : Except Failure β → List ε → Prop}
    (first : p.Logs answers post)
    (second : ∀ a new, post a new →
      (f a).run.Logs answers fun result later => post' result (new ++ later)) :
    ((liftM p : Engine α) >>= f).run.Logs answers post' := by
  change Program.Logs answers ((p >>= _) >>= _) _
  rw [bind_assoc]
  exact first.bind second

/-- The message of a step that failed is the text of its failure. -/
theorem told_step (machines : Set String) (left : Step → Prop) (stage : Stage) (name : String)
    (outcome : α → Outcome) (result : Except Failure α) :
    Told machines left result
      [⟨stage.name, name, (result.map outcome).mapError Failure.text⟩] := by
  apply Told.single
  intro message failed
  match result with
  | .ok a => cases failed
  | .error failure =>
    cases failed
    exact ⟨"", (String.empty_append ..).symm⟩

theorem Tells.step {outcome : α → Outcome} (asks : x.Asks Request.IsSilent) :
    Tells machines left (stage.step name outcome x) := by
  apply (step_logs asks).weaken
  rintro result _ rfl
  exact ⟨_, (List.append_nil _).symm, told_step machines left stage name outcome result⟩

theorem Tells.runStep (asks : x.Asks Request.IsSilent) :
    (Engine.runStep stage name x).Tells machines left := Tells.step asks

theorem Tells.performStep {x : Engine Outcome} (asks : x.Asks Request.IsSilent) :
    (Engine.performStep stage name x).Tells machines left := Tells.step asks

end Engine

open Engine Repository

variable {machines : Set String} {left : Step → Prop}

section Resources

variable (stage : Stage)

theorem DiskRecord.deleteInStep_tells (disk : DiskRecord) (step : String) :
    (disk.deleteInStep stage step).Tells machines left := by
  refine .discard (.performStep (.skipIfGone (.deleteThenForget ⟨rfl, fun _ => trivial⟩ ?_)))
  apply Asks.bind (read_asks _).within.ofRecords
  intro found
  cases found with
  | none => exact .pure ()
  | some record => exact (update_asks _).within.ofRecords

theorem Disks.deleteUnused_tells : (deleteUnused stage).Tells machines left :=
  .bind (.records findUnused_asks.within) fun _ => .forEach fun disk _ =>
    disk.deleteInStep_tells stage _

theorem StemcellRecord.deleteInStep_tells (stemcell : StemcellRecord) (step : String) :
    (stemcell.deleteInStep stage step).Tells machines left :=
  .discard (.performStep (.skipIfGone (.deleteThenForget ⟨rfl, fun _ => trivial⟩
    (update_asks _).within.ofRecords)))

namespace Stemcells

theorem deleteUnused_tells : (deleteUnused stage).Tells machines left :=
  .bind (.records findUnused_asks.within) fun _ => .forEach fun stemcell _ =>
    stemcell.deleteInStep_tells stage _

theorem upload_tells (extracted : ExtractedStemcell) :
    (upload extracted stage).Tells machines left := by
  refine .bind (Tells.step ?_) fun _ => .pure _
  apply Asks.bind (read_asks _).within.ofRecords
  intro found
  cases found with
  | some record => exact .pure _
  | none =>
    refine .bind (.within (.cloud rfl)) fun cid => ?_
    exact .bind (save_asks _ _ _).within.ofRecords fun _ => .pure _

end Stemcells

theorem Releases.deleteUnused_tells : (deleteUnused stage).Tells machines left := by
  apply Tells.bind (.records findUnused_asks)
  intro unused
  refine .forEach fun release _ => .discard (.performStep ?_)
  exact .bind (update_asks _).within.ofRecords fun _ => .pure _

end Resources

namespace PersistentDisk

variable (vm : Vm) (stage : Stage)

theorem create_tells (pool : DiskPool) : (create vm stage pool).Tells machines left := by
  refine .runStep (.bind (.within (.cloud rfl)) fun cid => ?_)
  exact (Disks.save_asks _ _ _).within.ofRecords

theorem attach_tells (disk : DiskRecord) : (attach vm stage disk).Tells machines left :=
  .runStep (.bind (.within (.cloud rfl)) fun _ => .within (.agent rfl))

theorem migrate_tells (old : DiskRecord) (pool : DiskPool) :
    (migrate vm stage old pool).Tells machines left := by
  apply Tells.bind (create_tells vm stage pool)
  intro new
  apply Tells.bind (attach_tells vm stage new)
  intro _
  apply Tells.bind (.runStep (.agent rfl))
  intro _
  apply Tells.bind (.records (makeCurrent_asks new))
  intro _
  apply Tells.bind (.runStep (.within (.cloud rfl)))
  intro _
  exact .bind (old.deleteInStep_tells stage _) fun _ => .pure new

theorem converge_tells (pool : DiskPool) : (converge vm stage pool).Tells machines left := by
  unfold converge
  split
  · exact .pure []
  · apply Tells.bind (.records (Asks.within (Asks.within (read_asks _))))
    intro found
    cases found with
    | some disk =>
      refine .bind ?_ fun _ => .bind (Disks.deleteUnused_tells stage) fun _ => .pure _
      apply Tells.bind (attach_tells vm stage disk)
      intro _
      split
      · exact migrate_tells vm stage disk pool
      · exact .pure disk
    | none =>
      refine .bind ?_ fun _ => .bind (Disks.deleteUnused_tells stage) fun _ => .pure _
      apply Tells.bind (create_tells vm stage pool)
      intro disk
      apply Tells.bind (attach_tells vm stage disk)
      intro _
      exact .bind (.records (makeCurrent_asks disk)) fun _ => .pure disk

end PersistentDisk

theorem Vms.create_silent (stemcell : StemcellRecord) (manifest : Manifest) :
    (create stemcell manifest).Asks Request.IsSilent := by
  apply Asks.bind (.within (.valid _))
  intro networks
  apply Asks.bind (.within (.valid _))
  intro pool
  apply Asks.bind (read_asks _).within.ofRecords
  intro disk
  apply Asks.bind freshId_asks.ofRecords
  intro agentId
  refine .bind (.within (.cloud rfl)) fun cid => ?_
  apply Asks.bind (update_asks _).within.ofRecords
  intro _
  refine ⟨rfl, fun (reply : Except CloudError Unit) => ?_⟩
  match reply with
  | .ok () => trivial
  | .error error =>
    change Asks _ (if error.kind = .notImplemented then _ else _)
    split
    · trivial
    · trivial

namespace Instance

variable (i : Instance) (stage : Stage)

theorem runScriptInStep_tells (script : String) :
    (i.runScriptInStep stage script).Tells machines left :=
  .runStep (Agent.runScript_asks script []).within.ofTalk

theorem awaitRunningJobs_tells (watch : WatchTime) :
    (i.awaitRunningJobs stage watch).Tells machines left :=
  .runStep (.bind ⟨rfl, fun _ => trivial⟩ fun _ => (Agent.awaitRunning_asks _ _).ofTalk)

theorem unmountDisks_tells : (i.unmountDisks stage).Tells machines left :=
  .bind (.silent (.within (.within (.agent rfl)))) fun _ => .forEach fun _ _ =>
    .runStep (.within (.agent rfl))

/-- Whatever the tunnel is for, nobody hears of it. -/
theorem awaitNewAgent_talks (registry : RegistryConfig) (tunnel : SshTunnelConfig) :
    (i.awaitNewAgent registry tunnel).Asks Request.IsTalk := by
  unfold awaitNewAgent
  split
  · exact Agent.awaitReady_asks _ _
  · apply (Stateful.runOn_only (Tunnel.start_asks _)).bind
    rintro ⟨started, opened⟩
    match started with
    | .error _ => trivial
    | .ok () =>
      apply Program.Only.bind (Agent.awaitReady_asks _ _)
      intro result
      have closing := Stateful.runOn_only (Tunnel.stop_asks opened)
      have closed : (discard (Tunnel.stop.runOn opened)).Only Request.IsTalk :=
        closing.bind fun _ => trivial
      exact closed.bind fun _ => trivial

theorem awaitReady_tells (registry : RegistryConfig) (tunnel : SshTunnelConfig) :
    ((awaitReady registry tunnel stage).toEngine i).Tells machines left := by
  simp only [awaitReady, enter, Stateful.toEngine_bind, Stateful.toEngine_get, pure_bind,
    Stateful.toEngine_modify, Stateful.toEngine_engine]
  exact .bind (.runStep (awaitNewAgent_talks _ registry tunnel).ofTalk) fun _ => .pure _

theorem updateDisks_tells (manifest : Manifest) :
    ((updateDisks manifest stage).toEngine i).Tells machines left := by
  simp only [updateDisks, enter, Stateful.toEngine_bind, Stateful.toEngine_get, pure_bind,
    Stateful.toEngine_engine, bind_assoc, Stateful.toEngine_modify, Stateful.toEngine_pure]
  apply Tells.bind (.silent (.within (.valid _)))
  intro pool
  exact .bind (.within (.within (PersistentDisk.converge_tells i.vm stage pool))) fun _ => .pure _

theorem updateJobs_tells (manifest : Manifest) :
    ((updateJobs manifest stage).toEngine i).Tells machines left := by
  simp only [updateJobs, enter, Stateful.toEngine_bind, Stateful.toEngine_get, pure_bind,
    Stateful.toEngine_modify, Stateful.toEngine_engine, bind_assoc]
  apply Tells.bind (.silent (.within (.render rfl)))
  intro initial
  apply Tells.bind (.talks (Agent.apply_asks initial).within)
  intro _
  apply Tells.bind (.silent (.within (.within (.agent rfl))))
  intro resolved
  apply Tells.bind (.silent (.within (.render rfl)))
  intro spec
  refine .bind (.runStep (Asks.ofTalk ?_)) fun _ => ?_
  · apply Asks.bind Agent.stop_asks.within
    intro _
    apply Asks.bind (Agent.apply_asks spec).within
    intro _
    apply Asks.bind (Agent.runScript_asks _ _).within
    intro _
    exact Agent.start_asks.within
  · apply Tells.bind (awaitRunningJobs_tells i stage _)
    intro _
    exact .bind (runScriptInStep_tells i stage _) fun _ => .pure _

/-- The wait for the agent, which may be left failed, and what follows when it is answered. -/
theorem attends_tells {timeout delay : Nat} {later : Except Failure Unit → Engine α}
    (refused : ∀ failure, ∃ a, later (.error failure) = pure a)
    (answered : (later (.ok ())).Tells machines left)
    (waits : ∀ step : Step, step.stage = stage.name → step.AwaitsAgent i.vm.cid → left step) :
    Tells machines left ((liftM (i.awaitAgent stage timeout delay).run : Engine _) >>= later) := by
  have asks : Asks Request.IsSilent (within "Agent unreachable" (Agent.awaitReady timeout delay)) :=
    (Agent.awaitReady_asks _ _).within.ofTalk
  apply logs_bindLift (step_logs asks)
  rintro result _ rfl
  match result with
  | .ok () =>
    apply Program.Logs.weaken answered
    rintro result _ ⟨steps, rfl, told⟩
    refine ⟨⟨stage.name, _, .ok .finished⟩ :: steps, rfl, ?_⟩
    have waited := told_step machines (fun _ => False) stage
      s!"Waiting for the agent on VM '{i.vm.cid}'" (fun _ : Unit => .finished) (.ok ())
    exact waited.append told nofun
  | .error failure =>
    obtain ⟨a, returns⟩ := refused failure
    rw [returns]
    refine .done ⟨[⟨stage.name, _, .error failure.text⟩], rfl, .single fun _ _ => ?_⟩
    exact waits _ rfl rfl

theorem shutDown_tells (timeout delay : Nat) (skipDrain skipUnmount : Bool)
    (waits : ∀ step : Step, step.stage = stage.name → step.AwaitsAgent i.vm.cid → left step) :
    ((shutDown timeout delay skipDrain skipUnmount stage).toEngine i).Tells machines left := by
  rw [shutDown_toEngine]
  refine i.attends_tells stage (fun _ => ⟨_, rfl⟩) ?_ waits
  apply Tells.bind (runScriptInStep_tells i stage _)
  intro _
  apply Tells.bind (.optional skipDrain (.runStep Agent.drain_asks.ofTalk))
  intro _
  apply Tells.bind (.runStep Agent.stop_asks.ofTalk)
  intro _
  apply Tells.bind (runScriptInStep_tells i stage _)
  intro _
  exact .bind (.optional skipUnmount (unmountDisks_tells i stage)) fun _ => .pure _

theorem start_tells (update : Update) (timeout delay : Nat)
    (waits : ∀ step : Step, step.stage = stage.name → step.AwaitsAgent i.vm.cid → left step) :
    ((start update timeout delay stage).toEngine i).Tells machines left := by
  simp only [start, agentAnswers, enter, Stateful.toEngine_bind, Stateful.toEngine_get, pure_bind,
    Stateful.toEngine_program, bind_assoc]
  refine i.attends_tells stage (fun _ => ⟨_, rfl⟩) ?_ waits
  simp only [Stateful.toEngine_pure, pure_bind, if_true, Stateful.toEngine_bind,
    Stateful.toEngine_get, Stateful.toEngine_engine, Stateful.toEngine_modify, bind_assoc]
  apply Tells.bind (runScriptInStep_tells i stage _)
  intro _
  apply Tells.bind (.runStep Agent.start_asks.within.ofTalk)
  intro _
  apply Tells.bind (awaitRunningJobs_tells i stage _)
  intro _
  exact .bind (runScriptInStep_tells i stage _) fun _ => .pure _

theorem vmDelete_silent (vm : Vm) : vm.delete.Asks Request.IsSilent := by
  refine .deleteThenForget ⟨rfl, fun _ => trivial⟩ ?_
  exact .bind (update_asks _).within.ofRecords fun _ => (update_asks _).within.ofRecords

/-- However the shutdown ended that returned, the machine is deleted next. -/
theorem delete_tells (timeout delay : Nat) (skipDrain : Bool) (among : i.vm.cid ∈ machines) :
    ((delete timeout delay skipDrain stage).toEngine i).Tells machines left := by
  let waits (step : Step) : Prop := step.stage = stage.name ∧ step.AwaitsAgent i.vm.cid
  let name := s!"Deleting VM '{i.vm.cid}'"
  have shuts (present : Bool) : Tells machines waits (if present then
      (shutDown timeout delay skipDrain false stage).toEngine i else pure ((), i)) := by
    cases present with
    | false => exact .pure _
    | true =>
      have handed (step : Step) (alike : step.stage = stage.name)
          (awaits : step.AwaitsAgent i.vm.cid) : waits step := ⟨alike, awaits⟩
      exact shutDown_tells i stage timeout delay skipDrain false handed
  rw [delete_toEngine]
  refine .bind (.silent (.within (.within (.cloud rfl)))) fun present => ?_
  apply Tells.handOver (shuts present)
  intro r
  apply Program.Logs.bind (step_logs (Asks.skipIfGone (vmDelete_silent i.vm)))
  rintro result _ rfl
  have told := told_step machines (fun _ => False) stage name id result
  have follows (step : Step) (waited : waits step) :
      step.GivenUp machines ⟨stage.name, name, (result.map id).mapError Failure.text⟩ :=
    ⟨i.vm.cid, among, waited.2, waited.1.symm, rfl⟩
  cases result with
  | ok outcome =>
    refine .done ⟨[_], rfl, ?_, fun step waited => ⟨_, rfl, follows step waited⟩⟩
    exact told.append .nil nofun
  | error failure =>
    exact .done ⟨_, rfl, told.failed, fun step waited => ⟨_, rfl, follows step waited⟩⟩

end Instance

namespace Instances

variable (settings : Settings) (stage : Stage)

theorem findCurrent_asks : (findCurrent settings).Asks Request.IsRecord :=
  .bind (.within (.bind (.within (read_asks _)) fun _ => .pure _)) fun _ => .pure _

theorem create_tells (jobName : String) (index : UInt32) (manifest : Manifest)
    (stemcell : StemcellRecord) (registry : RegistryConfig) (tunnel : SshTunnelConfig) :
    Tells machines left
      (create settings jobName index manifest stemcell registry tunnel stage) := by
  refine .bind (.runStep (.bind (Vms.create_silent stemcell manifest).within fun vm => ?_)) ?_
  · exact .bind stemcell.promote_asks.within.ofRecords fun _ => .pure _
  · intro vm
    apply Tells.bind (Tells.within (Instance.awaitReady_tells _ stage registry tunnel))
    intro r
    apply Tells.bind (Tells.within (Instance.updateDisks_tells _ stage manifest))
    exact fun _ => .pure _

theorem deleteAll_tells (timeout delay : Nat) (skipDrain : Bool) :
    (deleteAll settings timeout delay skipDrain stage).Tells Set.univ left := by
  apply Tells.bind (.records (findCurrent_asks settings))
  intro instances
  exact .forEach fun i _ => .discard (.within
    (i.delete_tells stage timeout delay skipDrain (Set.mem_univ _)))

end Instances

namespace Deployment

variable (stage : Stage)

theorem deploy_tells (settings : Settings) (manifest : Manifest) (extracted : ExtractedStemcell)
    (registry : RegistryConfig) (tunnel : SshTunnelConfig) :
    (deploy settings manifest extracted registry tunnel).Tells Set.univ left := by
  apply Tells.bind (.silent (.valid _))
  intro job
  refine .bind (.report fun _ => nofun) fun _ => ?_
  apply Tells.bind (Stemcells.upload_tells _ extracted).within
  intro stemcell
  refine .bind (.report fun _ => nofun) fun _ => ?_
  refine .bind (.report fun _ => nofun) fun _ => ?_
  apply Tells.bind (Instances.deleteAll_tells settings _ _ _ _)
  intro _
  apply Tells.bind (Instances.create_tells settings _ _ _ manifest stemcell registry tunnel).within
  intro r
  apply Tells.bind (Instance.updateJobs_tells _ _ manifest).discard
  intro _
  apply Tells.bind (Tells.discard (.records (Releases.record_asks _).within))
  intro _
  apply Tells.bind (Stemcells.deleteUnused_tells _)
  intro _
  apply Tells.bind (Releases.deleteUnused_tells _)
  intro _
  exact .report fun _ => nofun

theorem cleanUp_tells : (cleanUp stage).Tells machines left := by
  apply Tells.bind (Disks.deleteUnused_tells stage).within
  intro _
  apply Tells.bind (Stemcells.deleteUnused_tells stage).within
  intro _
  exact (Releases.deleteUnused_tells stage).within

theorem delete_tells (deployment : Deployment) :
    ((delete stage).toEngine deployment).Tells
      { cid | ∃ i ∈ deployment.instances, i.vm.cid = cid } left := by
  rw [delete_toEngine]
  refine .bind (.forEach fun i member => ?_) fun _ => ?_
  · have among : i ∈ deployment.instances := List.mem_reverse.mp member
    exact .discard (.within (i.delete_tells stage _ _ _ ⟨i, among, rfl⟩))
  apply Tells.bind (.forEach fun disk _ => disk.deleteInStep_tells stage _)
  intro _
  apply Tells.bind (.forEach fun stemcell _ => stemcell.deleteInStep_tells stage _)
  exact fun _ => .pure _

end Deployment

section Operations

variable {deleted left : Set String}

theorem Engine.Tells.tellsSteps {x : Engine α}
    (tells : x.Tells deleted fun step => ∃ cid ∈ left, step.AwaitsAgent cid) :
    x.run.TellsSteps id deleted left := by
  apply tells.weaken
  rintro result events ⟨steps, same, told⟩
  exact ⟨steps, same, told.wellTold⟩

/-- What became of the value in hand makes no difference. -/
theorem Stateful.tellsSteps {σ : Type} {x : Stateful σ α} {value : σ}
    (tells : (x.toEngine value).Tells deleted fun step => ∃ cid ∈ left, step.AwaitsAgent cid) :
    (x.runOn value).TellsSteps Prod.fst deleted left := by
  apply tells.tellsSteps.ofMap.weaken
  rintro ⟨result, value⟩ events ⟨steps, same, told⟩
  refine ⟨steps, same, told.followed, ?_, ?_⟩
  · rintro a rfl
    exact told.returned (a, value) rfl
  · rintro failure rfl
    exact told.failed failure rfl

/-- The wait for the agent of a new machine is another step than that for one that is deleted,
stopped or started. -/
theorem Step.AwaitsAgent.ne_ready {step : Step} {cid : String} (awaits : step.AwaitsAgent cid)
    (other : String) : step.name ≠ s!"Waiting for the agent on VM '{other}' to be ready" := by
  intro ready
  have short : step.name = "Waiting for the agent on VM '" ++ cid ++ "'" := awaits
  have long : step.name = "Waiting for the agent on VM '" ++ other ++ "' to be ready" := ready
  have last := congrArg (fun text : String => text.toList.getLast?) (short.symm.trans long)
  simp [List.getLast?_cons] at last

variable (settings : Settings) (manifest : Manifest) (registry : RegistryConfig)
  (tunnel : SshTunnelConfig) (stage : Stage) (timeout delay : Nat) (skipDrain : Bool)

/-- Whatever fails of what an operation asks, listeners hear of each step that it starts how the
step ended before they hear of the next. Nothing follows a failed step, and no run returns after
one, but where the agent of a machine did not answer that is deleted, stopped or started. -/
theorem operations_tell_their_steps :
    (∀ extracted, (Deployment.deploy settings manifest extracted registry tunnel).run.TellsSteps
      id Set.univ ∅) ∧
    (∀ deployment : Deployment, ((Deployment.delete stage).runOn deployment).TellsSteps Prod.fst
      { cid | ∃ i ∈ deployment.instances, i.vm.cid = cid } ∅) ∧
    (Deployment.cleanUp stage).run.TellsSteps id ∅ ∅ ∧
    (Instances.findCurrent settings).run.TellsSteps id ∅ ∅ ∧
    (∀ jobName index stemcell, (Instances.create settings jobName index manifest stemcell registry
      tunnel stage).run.TellsSteps id ∅ ∅) ∧
    (Instances.deleteAll settings timeout delay skipDrain stage).run.TellsSteps id Set.univ ∅ ∧
    (∀ i : Instance,
      Instance.disks.run.TellsSteps id ∅ ∅ ∧
      ((Instance.awaitReady registry tunnel stage).runOn i).TellsSteps Prod.fst ∅ ∅ ∧
      ((Instance.updateDisks manifest stage).runOn i).TellsSteps Prod.fst ∅ ∅ ∧
      ((Instance.updateJobs manifest stage).runOn i).TellsSteps Prod.fst ∅ ∅ ∧
      ((Instance.delete timeout delay skipDrain stage).runOn i).TellsSteps Prod.fst {i.vm.cid} ∅ ∧
      ((Instance.stop timeout delay skipDrain stage).runOn i).TellsSteps Prod.fst ∅ {i.vm.cid} ∧
      ∀ update, ((Instance.start update timeout delay stage).runOn i).TellsSteps Prod.fst ∅
        {i.vm.cid}) ∧
    ∀ (step : Step) (cid other : String), step.AwaitsAgent cid →
      step.name ≠ s!"Waiting for the agent on VM '{other}' to be ready" := by
  have waits (i : Instance) (step : Step) (_ : step.stage = stage.name)
      (awaits : step.AwaitsAgent i.vm.cid) : ∃ cid ∈ ({i.vm.cid} : Set String),
        step.AwaitsAgent cid := ⟨i.vm.cid, rfl, awaits⟩
  refine ⟨fun extracted => ?_, fun deployment => ?_, ?_, ?_, fun jobName index stemcell => ?_, ?_,
    fun i => ⟨?_, ?_, ?_, ?_, ?_, ?_, fun update => ?_⟩,
    fun _ _ other awaits => awaits.ne_ready other⟩
  · exact (Deployment.deploy_tells settings manifest extracted registry tunnel).tellsSteps
  · exact Stateful.tellsSteps (Deployment.delete_tells stage deployment)
  · exact (Deployment.cleanUp_tells stage).tellsSteps
  · exact (Tells.records (Instances.findCurrent_asks settings)).tellsSteps
  · exact (Instances.create_tells settings stage jobName index manifest stemcell registry
      tunnel).tellsSteps
  · exact (Instances.deleteAll_tells settings stage timeout delay skipDrain).tellsSteps
  · exact (Tells.silent (Asks.within (Asks.within (Asks.agent rfl)))).tellsSteps
  · exact Stateful.tellsSteps (i.awaitReady_tells stage registry tunnel)
  · exact Stateful.tellsSteps (i.updateDisks_tells stage manifest)
  · exact Stateful.tellsSteps (i.updateJobs_tells stage manifest)
  · exact Stateful.tellsSteps (i.delete_tells stage timeout delay skipDrain rfl)
  · exact Stateful.tellsSteps (i.shutDown_tells stage timeout delay skipDrain true (waits i))
  · exact Stateful.tellsSteps (i.start_tells stage update timeout delay (waits i))

end Operations

end Reconciler
