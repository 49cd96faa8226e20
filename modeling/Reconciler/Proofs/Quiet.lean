import Reconciler.Instance.Lifecycle
import Reconciler.Proofs.Parts

/-!
Quiet programs: all that talks to an agent, a renderer or a tunnel. They change no part of the
workspace, and they fail only where something may go wrong, so that nothing that a workspace has
been through can make them fail.
-/
namespace Reconciler

variable {α β : Type}

theorem Request.IsQuiet.spares {r : Request} (quiet : r.IsQuiet) (p : Part) (s : Surroundings) :
    p.Spares s r := by
  cases r with
  | cloud call =>
    cases call with
    | hasVm | setVmMetadata => exact nofun
    | _ => exact quiet.elim
  | save doc => exact quiet.elim
  | _ => trivial

/-- A request that may fail although the store works and nothing is missing. -/
theorem Conduct.Troubled.ofMay {c : Conduct} {held : Holdings} {r : Request}
    (may : c.mayFail held r) (other : ¬(r = .load ∨ ∃ doc, r = .save doc))
    (present : ∀ call, r = .cloud call → ¬held.Lacks call) : c.Troubled :=
  .inr ⟨held, r, other, may, present⟩

/-- A call that may fail although the cloud has everything that it is about. -/
theorem Conduct.Troubled.ofCall {c : Conduct} {held : Holdings} {call : CloudCall}
    (may : c.mayFail held (.cloud call)) (present : ¬held.Lacks call) : c.Troubled := by
  apply ofMay may (by simp)
  intro other same
  cases same
  exact present

/-- Changes nothing that lasts, and returns a value that counts as failed only where something may
go wrong. -/
def Program.Quiet (p : Program Effects α) (F : α → Prop) : Prop :=
  ∀ (c : Conduct) (g : Guard) (s : Surroundings),
    p.Meets c.Answers g.safe (fun a t => Frame [] s t ∧ (F a → c.Troubled)) s

namespace Program

variable {F : α → Prop} {G : β → Prop}

theorem Quiet.done {a : α} (h : ¬F a) : (Program.done a : Program Effects α).Quiet F :=
  fun _ _ s => ⟨Frame.refl [] s, fun is => (h is).elim⟩

theorem Quiet.weaken {other : α → Prop} {p : Program Effects α} (valid : p.Quiet F)
    (implies : ∀ a, other a → F a) : p.Quiet other :=
  fun c g s => (valid c g s).weaken fun a _ h => ⟨h.1, fun is => h.2 (implies a is)⟩

/-- After a first part that failed nothing more is asked of the second. -/
theorem Quiet.bind {p : Program Effects α} {f : α → Program Effects β} (first : p.Quiet F)
    (second : ∀ a, (f a).Quiet fun b => G b ∧ ¬F a) : (p >>= f).Quiet G := by
  intro c g s
  refine (first c g s).bind fun a t h => (second a c g t).weaken fun b u later => ?_
  refine ⟨h.1.trans later.1, fun is => ?_⟩
  by_cases before : F a
  · exact h.2 before
  · exact later.2 ⟨is, before⟩

theorem Quiet.ask {r : Request} {F : r.Reply → Prop} (quiet : r.IsQuiet)
    (cause : ∀ (c : Conduct) s reply t, c.Answers s r reply t → F reply → c.Troubled) :
    (Reconciler.ask r).Quiet F := by
  intro c g s reply t answered
  refine ⟨fun deed => (deed quiet).elim, Frame.ofStep answered.step ?_, cause c s reply t answered⟩
  exact fun p _ => quiet.spares p s

theorem Quiet.now : (Clock.now : Program Effects Nat).Quiet fun _ => False :=
  Quiet.ask trivial fun _ _ _ _ _ => False.elim

theorem Quiet.sleep (ms : Nat) : (Clock.sleep ms : Program Effects Unit).Quiet fun _ => False :=
  Quiet.ask trivial fun _ _ _ _ _ => False.elim

theorem Quiet.report (notice : Notice) :
    (Reporter.report notice : Program Effects Unit).Quiet fun _ => False :=
  Quiet.ask trivial fun _ _ _ _ _ => False.elim

end Program

/-- A result that is an error. -/
def Failed {ε : Type} (result : Except ε α) : Prop := ∃ e, result = .error e

@[simp] theorem not_failed_ok {ε : Type} (a : α) : ¬Failed (.ok a : Except ε α) :=
  nofun

theorem Program.Quiet.mapError {ε ε' : Type} {p : Program Effects (Except ε α)}
    (valid : p.Quiet Failed) (f : ε → ε') :
    (p >>= fun result => pure (result.mapError f)).Quiet Failed := by
  refine valid.bind fun result => Program.Quiet.done ?_
  rintro ⟨⟨e, h⟩, well⟩
  cases result with
  | ok a => cases h
  | error e => exact well ⟨e, rfl⟩

namespace Engine

/-- Changes nothing that lasts, and fails only where something may go wrong. -/
def Quiet (x : Engine α) : Prop := x.run.Quiet Failed

theorem Quiet.meets {x : Engine α} (valid : x.Quiet) (c : Conduct) (g : Guard) (s : Surroundings) :
    Meets c g s x (fun _ t => Frame [] s t) fun _ t => Frame [] s t ∧ c.Troubled :=
  (valid c g s).weaken fun result t h => by
    cases result with
    | ok a => exact h.1
    | error e => exact ⟨h.1, h.2 ⟨e, rfl⟩⟩

theorem Quiet.pure (a : α) : (Pure.pure a : Engine α).Quiet := Program.Quiet.done nofun

theorem Quiet.bind {x : Engine α} {f : α → Engine β} (first : x.Quiet)
    (second : ∀ a, (f a).Quiet) : (x >>= f).Quiet := by
  apply Program.Quiet.bind first
  intro result
  cases result with
  | ok a => exact (second a).weaken fun b is => is.1
  | error e => exact Program.Quiet.done fun is => is.2 ⟨e, rfl⟩

/-- After a program that failed nothing more is asked of the rest. -/
theorem Quiet.bindLift {p : Program Effects α} {f : α → Engine β} {F : α → Prop}
    (first : p.Quiet F) (second : ∀ a, (f a).run.Quiet fun r => Failed r ∧ ¬F a) :
    ((liftM p : Engine α) >>= f).Quiet := by
  change ((p >>= _) >>= _).Quiet _
  rw [bind_assoc]
  exact first.bind second

theorem Quiet.within {x : Engine α} {context : String} (valid : x.Quiet) :
    (Reconciler.within context x).Quiet := Program.Quiet.mapError valid _

theorem Quiet.runStep {x : Engine α} {stage : Stage} {name : String} (valid : x.Quiet) :
    (Engine.runStep stage name x).Quiet := by
  apply Program.Quiet.bind (Program.Quiet.report _)
  intro _
  apply Program.Quiet.bind valid
  intro result
  apply Program.Quiet.bind (Program.Quiet.report _)
  intro _
  exact Program.Quiet.done fun is => is.1.2 is.1.1.1

theorem Quiet.forEach {items : List α} {action : α → Engine Unit}
    (each : ∀ item, (action item).Quiet) : (forEach items action).Quiet := by
  induction items with
  | nil => exact Quiet.pure ()
  | cons item rest ih => exact Quiet.bind (each item) fun _ => ih

theorem Quiet.optional {x : Engine Unit} (skip : Bool) (valid : x.Quiet) :
    (unless skip do x : Engine Unit).Quiet := by
  cases skip with
  | false => exact valid
  | true => exact Quiet.pure ()

theorem Quiet.sleep (ms : Nat) : (Engine.sleep ms).Quiet :=
  Program.Quiet.bind (Program.Quiet.sleep ms) fun _ => Program.Quiet.done fun is => nomatch is.1

/-- An agent may always fail, and what it is told changes no part of the workspace. -/
theorem agent_meets {call : AgentCall} {c : Conduct} {g : Guard} {s : Surroundings}
    (allowed : ¬Request.IsQuiet (.agent call) → g s (.agent call)) :
    Meets c g s (Engine.agent call) (fun _ t => Frame [] s t)
      fun _ t => Frame [] s t ∧ c.Troubled :=
  Meets.agent allowed (fun _ _ => Frame.noted rfl rfl)
    fun _ may => ⟨Frame.noted rfl rfl, .ofMay may (by simp) (by simp)⟩

theorem Quiet.agent (call : AgentCall) (quiet : Request.IsQuiet (.agent call)) :
    (Engine.agent call).Quiet := by
  intro c g s
  refine Program.Meets.weaken (agent_meets (absurd quiet)) fun result t h => ?_
  cases result with
  | ok a => exact ⟨h, fun is => (not_failed_ok a is).elim⟩
  | error e => exact ⟨h.1, fun _ => h.2⟩

theorem Quiet.render (call : RenderCall) : (Engine.render call).Quiet := by
  refine Program.Quiet.ask trivial fun c s reply t answered is => ?_
  obtain ⟨e, rfl⟩ := is
  exact .ofMay answered.1 (by simp) (by simp)

/-- Whether a machine is there can be asked for any machine. -/
theorem Quiet.hasVm (cid : String) : (Engine.cloud (.hasVm cid)).Quiet := by
  have asked : (tryCloud (.hasVm cid)).Quiet Failed := by
    refine Program.Quiet.ask trivial fun c s reply t answered is => ?_
    obtain ⟨e, rfl⟩ := is
    exact .ofCall answered.1 id
  exact Program.Quiet.mapError asked _

end Engine

/-- That a value in hand is returned too makes no difference. -/
theorem Stateful.runOn_quiet {σ : Type} {x : Stateful σ α} {value : σ}
    (valid : (x.toEngine value).Quiet) : (x.runOn value).Quiet fun r => Failed r.1 := by
  intro c g s
  refine (Program.Meets.ofMap (valid c g s)).weaken fun r t h => ⟨h.1, fun is => h.2 ?_⟩
  obtain ⟨e, is⟩ := is
  exact ⟨e, by rw [is]; rfl⟩

section Retries

variable {ε : Type} {attempt : Program Effects (Except ε α)}

theorem TimeoutRetry.attempts_quiet {delay deadline : Nat} {retryable : ε → Bool}
    (valid : attempt.Quiet Failed) (further : Nat) :
    (TimeoutRetry.attempts delay deadline attempt retryable further).Quiet Failed := by
  induction further with
  | zero => exact valid
  | succ further ih =>
    apply valid.bind
    intro result
    match result with
    | .ok a => exact Program.Quiet.done fun is => not_failed_ok a is.1
    | .error e =>
      have known (other : Except ε α) : ¬(Failed other ∧ ¬Failed (.error e : Except ε α)) :=
        fun is => is.2 ⟨e, rfl⟩
      dsimp only
      split
      · apply Program.Quiet.now.bind
        intro now
        split
        · exact (Program.Quiet.sleep _).bind fun _ => ih.weaken fun _ is => is.1.1.1
        · exact Program.Quiet.done fun is => known _ is.1
      · exact Program.Quiet.done (known _)

theorem TimeoutRetry.run_quiet {retry : TimeoutRetry} {retryable : ε → Bool}
    (valid : attempt.Quiet Failed) : (retry.run attempt retryable).Quiet Failed :=
  Program.Quiet.now.bind fun _ => (attempts_quiet valid _).weaken fun _ is => is.1

theorem AttemptRetry.attempts_quiet {delay : Nat} (valid : attempt.Quiet Failed) (further : Nat) :
    (AttemptRetry.attempts delay attempt further).Quiet Failed := by
  induction further with
  | zero => exact valid
  | succ further ih =>
    apply valid.bind
    intro result
    match result with
    | .ok a => exact Program.Quiet.done fun is => not_failed_ok a is.1
    | .error e => exact (Program.Quiet.sleep _).bind fun _ => ih.weaken fun _ is => is.1.1

end Retries

open Engine

namespace Agent

theorem awaitReady_quiet (timeout delay : Nat) : (awaitReady timeout delay).Quiet := by
  apply Program.Quiet.bind (TimeoutRetry.run_quiet (Quiet.agent .ping trivial))
  intro result
  match result with
  | .ok _ => exact Program.Quiet.done fun is => not_failed_ok _ is.1
  | .error e => exact Program.Quiet.done fun is => is.2 ⟨e, rfl⟩

/-- Jobs that do not run are trouble too. -/
theorem checkRunning_quiet : checkRunning.Quiet := by
  intro c g s
  have asked : Meets c g s (within "Sending get_state to agent" (Engine.agent .getState))
      (fun state t => Frame [] s t ∧ (c.running → AgentState.isRunning state = true))
      (fun _ t => Frame [] s t ∧ c.Troubled) := by
    refine Meets.within (Meets.agent (absurd trivial) (fun state running => ?_)
      fun failure may => ?_)
    · exact ⟨Frame.noted rfl rfl, running⟩
    · exact ⟨Frame.noted rfl rfl, .ofMay may (by simp) (by simp)⟩
  have checked : Meets c g s checkRunning (fun _ t => Frame [] s t)
      (fun _ t => Frame [] s t ∧ c.Troubled) := by
    apply Meets.bind asked
    intro state t asked
    obtain ⟨frame, running⟩ := asked
    split
    · exact Meets.pure frame
    · exact Meets.throw ⟨frame, .inl fun runs => absurd (running runs) ‹_›⟩
  apply Program.Meets.weaken checked
  · rintro (e | a) t h
    · exact ⟨h.1, fun _ => h.2⟩
    · exact ⟨h, fun is => (not_failed_ok a is).elim⟩

theorem awaitRunning_quiet (maxAttempts delay : Nat) : (awaitRunning maxAttempts delay).Quiet :=
  AttemptRetry.attempts_quiet checkRunning_quiet _

theorem runScript_quiet (script : String) (options : Properties) :
    (runScript script options).Quiet := Quiet.within (Quiet.agent _ trivial)

theorem apply_quiet (spec : Json) : (apply spec).Quiet := Quiet.within (Quiet.agent _ trivial)

end Agent

namespace Tunnel

theorem connectOnce_quiet (options : TunnelOptions) : (connectOnce options).Quiet Failed := by
  refine Program.Quiet.ask trivial fun c s reply t answered is => ?_
  obtain ⟨e, rfl⟩ := is
  exact .ofMay answered.1 (by simp) (by simp)

theorem judge_quiet (error : SshError) (tunnel : Tunnel) :
    ((judge error).run tunnel).Quiet fun _ => False := by
  simp only [judge, StateT.run_bind, StateT.run_monadLift, bind_assoc]
  exact Program.Quiet.now.bind fun _ => Program.Quiet.done And.left

theorem connect_quiet (further : Nat) (tunnel : Tunnel) :
    ((connect further).run tunnel).Quiet fun r => Failed r.1 := by
  induction further generalizing tunnel with
  | zero =>
    simp only [connect, StateT.run_bind, StateT.run_monadLift, StateT.run_get, bind_assoc,
      pure_bind]
    apply (connectOnce_quiet tunnel.options).bind
    intro result
    match result with
    | .ok session => exact Program.Quiet.done fun is => not_failed_ok _ is.1
    | .error e =>
      simp only [discard, Functor.discard, LawfulFunctor.map_const, Function.comp_apply,
        StateT.run_bind, map_eq_pure_bind, bind_assoc, pure_bind]
      exact (judge_quiet e tunnel).bind fun r => Program.Quiet.done fun is => is.1.2 ⟨e, rfl⟩
  | succ further ih =>
    simp only [connect, StateT.run_bind, StateT.run_monadLift, StateT.run_get, bind_assoc,
      pure_bind]
    apply (connectOnce_quiet tunnel.options).bind
    intro result
    match result with
    | .ok session => exact Program.Quiet.done fun is => not_failed_ok _ is.1
    | .error e =>
      simp only [StateT.run_bind]
      apply (judge_quiet e tunnel).bind
      intro r
      split
      · simp only [StateT.run_bind, StateT.run_monadLift, StateT.run_get, bind_assoc, pure_bind]
        exact (Program.Quiet.sleep _).bind fun _ => (ih _).weaken fun _ is => is.1.1.1
      · exact Program.Quiet.done fun is => is.1.2 ⟨e, rfl⟩

theorem forward_quiet (session : Session) (remotePort localPort : UInt16) :
    (ask (.forward session remotePort localPort) : Program Effects Unit).Quiet fun _ => False :=
  Program.Quiet.ask (r := .forward session remotePort localPort) trivial
    fun _ _ _ _ _ => False.elim

theorem close_quiet (session : Session) :
    (ask (.close session) : Program Effects (Except ForwardFault Unit)).Quiet Failed := by
  apply Program.Quiet.ask (r := .close session) trivial
  intro c s reply t answered is
  obtain ⟨e, rfl⟩ := is
  exact .ofMay answered.1 (by simp) (by simp)

theorem start_quiet {tunnel : Tunnel} (fresh : tunnel.session = none) :
    (start.toEngine tunnel).Quiet := by
  simp only [start, isRunning, fresh, Stateful.toEngine_bind, Stateful.toEngine_get, pure_bind,
    Option.isSome_none, Bool.false_eq_true, if_false, Stateful.toEngine_state]
  apply Quiet.bindLift (connect_quiet _ tunnel)
  intro r
  split
  case h_1 error failed => exact Program.Quiet.done fun is => is.2 ⟨error, failed⟩
  case h_2 session connected =>
    refine Program.Quiet.weaken (F := Failed) ?_ fun _ is => is.1
    have forwarded := forward_quiet session tunnel.options.remotePort tunnel.options.localPort
    apply Quiet.bindLift (p := ask (.forward ..)) forwarded
    intro _
    exact Program.Quiet.done fun is => not_failed_ok _ is.1

theorem stop_quiet (tunnel : Tunnel) : (stop.toEngine tunnel).Quiet := by
  simp only [stop, Stateful.toEngine_bind, Stateful.toEngine_get, pure_bind]
  split
  · exact Quiet.pure _
  case h_2 session _ =>
    simp only [Stateful.toEngine_bind, Stateful.toEngine_modify, Stateful.toEngine_program,
      pure_bind, bind_assoc]
    apply Quiet.bindLift (close_quiet session)
    intro result
    match result with
    | .ok () => exact Program.Quiet.done fun is => not_failed_ok _ is.1
    | .error (.failed e) => exact Program.Quiet.done fun is => is.2 ⟨_, rfl⟩
    | .error .crashed => exact Program.Quiet.done fun is => is.2 ⟨_, rfl⟩

end Tunnel

namespace Instance

variable (i : Instance) (stage : Stage)

theorem runScriptInStep_quiet (script : String) : (i.runScriptInStep stage script).Quiet :=
  Quiet.runStep (Quiet.within (Agent.runScript_quiet script []))

theorem awaitAgent_quiet (timeout delay : Nat) : (i.awaitAgent stage timeout delay).Quiet :=
  Quiet.runStep (Quiet.within (Agent.awaitReady_quiet timeout delay))

theorem awaitRunningJobs_quiet (watch : WatchTime) : (i.awaitRunningJobs stage watch).Quiet :=
  Quiet.runStep (Quiet.bind (Quiet.sleep _) fun _ => Agent.awaitRunning_quiet _ _)

theorem unmountDisks_quiet : (i.unmountDisks stage).Quiet := by
  apply Quiet.bind (Quiet.within (Quiet.within (Quiet.agent .listDisk trivial)))
  intro disks
  exact Quiet.forEach fun cid => Quiet.runStep (Quiet.within (Quiet.agent _ trivial))

/-- However the tunnel ends, the wait decides. -/
theorem awaitNewAgent_quiet (registry : RegistryConfig) (tunnel : SshTunnelConfig) :
    (i.awaitNewAgent registry tunnel).Quiet := by
  unfold awaitNewAgent
  split
  · exact Agent.awaitReady_quiet _ _
  · have opening : (Tunnel.start.toEngine
        (.new i.settings (.forRegistry tunnel registry))).Quiet := Tunnel.start_quiet rfl
    apply Program.Quiet.bind (Stateful.runOn_quiet opening)
    intro r
    obtain ⟨started, opened⟩ := r
    match started with
    | .error e => exact Program.Quiet.done fun is => is.2 ⟨e, rfl⟩
    | .ok () =>
      refine Program.Quiet.weaken (F := Failed) ?_ fun _ is => is.1
      apply Program.Quiet.bind (Agent.awaitReady_quiet _ _)
      intro result
      have closing := Stateful.runOn_quiet (Tunnel.stop_quiet opened)
      have closed : (discard (Tunnel.stop.runOn opened)).Quiet fun _ => False :=
        Program.Quiet.bind closing fun _ => Program.Quiet.done And.left
      exact closed.bind fun _ => Program.Quiet.done fun is => is.1.2 is.1.1

theorem awaitReady_quiet (registry : RegistryConfig) (tunnel : SshTunnelConfig) :
    ((awaitReady registry tunnel stage).toEngine i).Quiet := by
  simp only [awaitReady, enter, Stateful.toEngine_bind, Stateful.toEngine_get, pure_bind,
    Stateful.toEngine_modify, Stateful.toEngine_engine]
  exact Quiet.bind (Quiet.runStep (awaitNewAgent_quiet _ registry tunnel)) fun _ => Quiet.pure _

theorem updateJobs_quiet (manifest : Manifest) :
    ((updateJobs manifest stage).toEngine i).Quiet := by
  simp only [updateJobs, enter, Stateful.toEngine_bind, Stateful.toEngine_get, pure_bind,
    Stateful.toEngine_modify, Stateful.toEngine_engine, bind_assoc]
  apply Quiet.bind (Quiet.within (Quiet.render _))
  intro initial
  apply Quiet.bind (Quiet.within (Agent.apply_quiet _))
  intro _
  apply Quiet.bind (Quiet.within (Quiet.within (Quiet.agent .getState trivial)))
  intro resolved
  apply Quiet.bind (Quiet.within (Quiet.render _))
  intro spec
  refine Quiet.bind (Quiet.runStep ?_) fun _ => ?_
  · apply Quiet.bind (Quiet.within (Quiet.within (Quiet.agent .stop trivial)))
    intro _
    apply Quiet.bind (Quiet.within (Agent.apply_quiet _))
    intro _
    apply Quiet.bind (Quiet.within (Agent.runScript_quiet _ _))
    intro _
    exact Quiet.within (Quiet.within (Quiet.agent .start trivial))
  · apply Quiet.bind (awaitRunningJobs_quiet i stage _)
    intro _
    exact Quiet.bind (runScriptInStep_quiet i stage _) fun _ => Quiet.pure _

/-- Only an agent that answers is told to stop the jobs. -/
theorem shutDown_toEngine (timeout delay : Nat) (skipDrain skipUnmount : Bool) :
    (shutDown timeout delay skipDrain skipUnmount stage).toEngine i = (do
      let answer ← (liftM (i.awaitAgent stage timeout delay).run : Engine (Except Failure Unit))
      match answer with
      | .error _ => return ((), i)
      | .ok () =>
        i.runScriptInStep stage "pre-stop"
        (unless skipDrain do
          Engine.runStep stage s!"Draining jobs on instance '{i.label}'" Agent.drain : Engine Unit)
        Engine.runStep stage s!"Stopping jobs on instance '{i.label}'" Agent.stop
        i.runScriptInStep stage "post-stop"
        (unless skipUnmount do i.unmountDisks stage : Engine Unit)
        return ((), { i with phase := .stopped })) := by
  simp only [shutDown, agentAnswers, enter, Stateful.toEngine_bind, Stateful.toEngine_get,
    pure_bind, Stateful.toEngine_program, bind_assoc]
  congr 1
  funext result
  match result with
  | .error _ => rfl
  | .ok () => cases skipDrain <;> cases skipUnmount <;> simp

/-- The machine is deleted last, however it was found. -/
theorem delete_toEngine (timeout delay : Nat) (skipDrain : Bool) :
    (delete timeout delay skipDrain stage).toEngine i = (do
      let present ← within s!"Checking existence of vm for instance '{i.label}'" i.vm.isPresent
      let r ← (if present then (shutDown timeout delay skipDrain false stage).toEngine i
        else pure ((), i) : Engine (Unit × Instance))
      let _ ← Engine.performStep stage s!"Deleting VM '{i.vm.cid}'"
        (skipIfGone .vmNotFound (fun _ => "VM not found") i.vm.delete)
      return ((), { r.2 with phase := .deleted })) := by
  simp only [delete, enter, Stateful.toEngine_bind, Stateful.toEngine_get, pure_bind,
    Stateful.toEngine_engine, bind_assoc]
  congr 1
  funext present
  cases present with
  | false => simp
  | true => simp

theorem shutDown_quiet (timeout delay : Nat) (skipDrain skipUnmount : Bool) :
    ((shutDown timeout delay skipDrain skipUnmount stage).toEngine i).Quiet := by
  rw [shutDown_toEngine]
  apply Quiet.bindLift (awaitAgent_quiet i stage _ _)
  intro result
  refine Program.Quiet.weaken (F := Failed) ?_ fun _ is => is.1
  match result with
  | .error e => exact Quiet.pure _
  | .ok () =>
    apply Quiet.bind (runScriptInStep_quiet i stage _)
    intro _
    refine Quiet.bind (Quiet.optional _ (Quiet.runStep (Quiet.within (Quiet.agent .drain trivial))))
      fun _ => ?_
    apply Quiet.bind (Quiet.runStep (Quiet.within (Quiet.agent .stop trivial)))
    intro _
    apply Quiet.bind (runScriptInStep_quiet i stage _)
    intro _
    exact Quiet.bind (Quiet.optional _ (unmountDisks_quiet i stage)) fun _ => Quiet.pure _

/-- All of a teardown but the deletion of the machine is quiet. -/
theorem delete_meets {c : Conduct} {g : Guard} {s : Surroundings} {timeout delay : Nat}
    {skipDrain : Bool} {ok : Unit × Instance → Surroundings → Prop}
    {err : Failure → Surroundings → Prop}
    (deleting : ∀ t, Frame [] s t → Meets c g t
      (performStep stage s!"Deleting VM '{i.vm.cid}'"
        (skipIfGone .vmNotFound (fun _ => "VM not found") i.vm.delete))
      (fun _ u => ∀ r, ok r u) err)
    (troubled : ∀ e t, Frame [] s t → c.Troubled → err e t) :
    Meets c g s ((delete timeout delay skipDrain stage).toEngine i) ok err := by
  have asked : i.vm.isPresent.Quiet := Quiet.within (Quiet.hasVm _)
  have stopped (present : Bool) : (if present then
      (shutDown timeout delay skipDrain false stage).toEngine i else pure ((), i)).Quiet := by
    cases present with
    | false => exact Quiet.pure _
    | true => exact shutDown_quiet i stage timeout delay skipDrain false
  rw [delete_toEngine]
  refine Meets.bind ((Quiet.within asked).meets c g s |>.weaken (fun _ _ h => h)
    fun e t h => troubled e t h.1 h.2) fun present t before => ?_
  refine Meets.bind (((stopped present).meets c g t).weaken (fun _ _ h => before.trans h)
    fun e u h => troubled e u (before.trans h.1) h.2) fun r u after => ?_
  exact Meets.bind (deleting u after) fun _ _ h => Meets.pure (h _)

end Instance

end Reconciler
