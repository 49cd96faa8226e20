import Reconciler.Proofs.Sessions

/-!
The tunnel of a wait. While a new agent is waited for at most one session is open. No ping is sent
before it is open, and it is closed however the wait ends; what the wait returns is left to the
agent.
-/
namespace Reconciler

open Engine

/-- The exchanges of a run of the program that ends so. -/
def Program.Makes {α : Type} (p : Program Effects α) (a : α) (calls : List Exchange) : Prop :=
  p.Reaches Traced [] (.done a) calls

theorem Program.Reaches.traced_append {α : Type} {p q : Program Effects α}
    {s t : List Exchange} (ran : p.Reaches Traced s q t) (first : List Exchange) :
    p.Reaches Traced (first ++ s) q (first ++ t) := by
  induction ran with
  | here => exact .here _ _
  | next answered _ ih =>
    refine .next ⟨answered.1, ?_⟩ ih
    rw [answered.2]
    split
    · rfl
    · exact (List.append_assoc ..).symm

theorem leaves_makes {α : Type} (p : Program Effects α) : Leaves p p.Makes := by
  induction p with
  | done a => exact .done (.here _ _)
  | ask r next ih =>
    intro s reply t answered
    refine ⟨trivial, (ih reply t).weaken ?_⟩
    rintro a u ⟨calls, rfl, ran⟩
    obtain ⟨expected, rfl⟩ := answered
    let noted : List Exchange := if r.isNotice then [] else [⟨r, reply⟩]
    have later := ran.traced_append noted
    rw [List.append_nil] at later
    refine ⟨noted ++ calls, ?_, .next ⟨expected, rfl⟩ later⟩
    cases told : r.isNotice <;> simp [noted, told]

/-- Attempts to connect, and how the last one went. After each that failed the clock is read, and
before a further one there is a pause. -/
inductive Connects (options : TunnelOptions) (delay : Nat) :
    List Exchange → Except SshError Session → Prop
  | connected (session : Session) :
      Connects options delay [⟨.connect options, .ok session⟩] (.ok session)
  | refused (error : SshError) (now : Nat) :
      Connects options delay [⟨.connect options, .error error⟩, ⟨.now, now⟩] (.error error)
  | again (error : SshError) (now : Nat) {calls : List Exchange} {result : Except SshError Session}
      (later : Connects options delay calls result) :
      Connects options delay
        (⟨.connect options, .error error⟩ :: ⟨.now, now⟩ :: ⟨.sleep delay, ()⟩ :: calls) result

namespace Connects

variable {options : TunnelOptions} {delay : Nat} {calls : List Exchange}
  {result : Except SshError Session}

theorem requests (connects : Connects options delay calls result) : ∀ e ∈ calls,
    e.request = .connect options ∨ e.request = .now ∨ e.request = .sleep delay := by
  induction connects with
  | connected | refused => simp
  | again _ _ _ ih => simpa using ih

theorem sessions (connects : Connects options delay calls result) :
    calls.filterMap Exchange.connected = result.toOption.toList := by
  induction connects with
  | connected | refused => rfl
  | again _ _ _ ih => exact ih

theorem unclosed (connects : Connects options delay calls result) :
    calls.filterMap Exchange.closed = [] := by
  induction connects with
  | connected | refused => rfl
  | again _ _ _ ih => exact ih

theorem last {error : SshError} (connects : Connects options delay calls (.error error)) :
    ∃ (tried : List Exchange) (now : Nat),
      calls = tried ++ [⟨.connect options, .error error⟩, ⟨.now, now⟩] := by
  generalize failed : Except.error error = result at connects
  induction connects with
  | connected => cases failed
  | refused error now =>
    cases failed
    exact ⟨[], now, rfl⟩
  | again _ _ _ ih =>
    obtain ⟨tried, now, rfl⟩ := ih failed
    exact ⟨_ :: _ :: _ :: tried, now, rfl⟩

end Connects

namespace Tunnel

variable {tunnel : Tunnel}

theorem leaves_connect (further : Nat) (tunnel : Tunnel) :
    Leaves ((connect further).run tunnel) fun r calls =>
      Connects tunnel.options tunnel.retryDelay calls r.1 := by
  induction further generalizing tunnel with
  | zero =>
    refine Leaves.ask rfl fun (reply : Except SshError Session) _ => ?_
    cases reply with
    | ok session => exact Leaves.done (.connected session)
    | error error => exact Leaves.ask rfl fun now _ => Leaves.done (.refused error now)
  | succ further ih =>
    refine Leaves.ask rfl fun (reply : Except SshError Session) _ => ?_
    cases reply with
    | ok session => exact Leaves.done (.connected session)
    | error error =>
      refine Leaves.ask rfl fun (now : Nat) _ => ?_
      let judged := { tunnel with strategy := (tunnel.strategy.judge now error.class).2 }
      change Leaves ((if (tunnel.strategy.judge now error.class).1 = true then _ else _ :
        StateT Tunnel (Program Effects) (Except SshError Session)).run judged) _
      split
      case isTrue =>
        refine Leaves.ask rfl fun _ _ => (ih judged).weaken fun r calls connects => ?_
        exact .again error now connects
      case isFalse => exact Leaves.done (.refused error now)

theorem leaves_start (fresh : tunnel.session = none) :
    Leaves (start.runOn tunnel) fun r calls =>
      let options := tunnel.options
      match r.1 with
      | .ok () => ∃ session tried, Connects options tunnel.retryDelay tried (.ok session) ∧
          calls = tried ++ [⟨.forward session options.remotePort options.localPort, ()⟩] ∧
          r.2.session = some session
      | .error failure => ∃ error, Connects options tunnel.retryDelay calls (.error error) ∧
          failure = .within s!"Starting SSH tunnel to '{options.host}:{options.port}'"
            (.ssh error) := by
  rw [start, Stateful.runOn_get, isRunning, fresh]
  change Leaves (Stateful.runOn (_ >>= _) tunnel) _
  rw [Stateful.runOn_state]
  refine (leaves_connect _ tunnel).bind ?_
  rintro ⟨error | session, opened⟩ calls connects
  · refine Leaves.done ⟨error, ?_, rfl⟩
    rwa [List.append_nil]
  · exact Leaves.ask rfl fun _ _ => Leaves.done ⟨session, calls, connects, rfl, rfl⟩

theorem leaves_stop {session : Session} (running : tunnel.session = some session) :
    Leaves (stop.runOn tunnel) fun _ calls => ∃ reply, calls = [⟨.close session, reply⟩] := by
  rw [stop, Stateful.runOn_get, running]
  refine Leaves.ask rfl fun (reply : Except ForwardFault Unit) _ => ?_
  match reply with
  | .ok () => exact Leaves.done ⟨_, rfl⟩
  | .error (.failed _) => exact Leaves.done ⟨_, rfl⟩
  | .error .crashed => exact Leaves.done ⟨_, rfl⟩

end Tunnel

/-- The wait for the agent itself. -/
def Settings.agentWait (settings : Settings) : Engine Unit :=
  Agent.awaitReady settings.agentReadyTimeout settings.agentReadyDelay

theorem Pings.requests {delay deadline further : Nat} {calls : List Exchange} {answered : Bool}
    (pings : Pings delay deadline further calls answered) : ∀ e ∈ calls,
    e.request = .agent .ping ∨ e.request = .now ∨ e.request = .sleep delay := by
  induction pings with
  | answered | last | late => simp
  | again _ _ _ ih => simpa using ih

theorem Pings.sessions {delay deadline further : Nat} {calls : List Exchange} {answered : Bool}
    (pings : Pings delay deadline further calls answered) :
    calls.filterMap Exchange.connected = [] ∧ calls.filterMap Exchange.closed = [] := by
  induction pings with
  | answered | last | late => exact ⟨rfl, rfl⟩
  | again _ _ _ ih => exact ih

theorem Settings.agentWait_sessions {settings : Settings} {result : Except Failure Unit}
    {calls : List Exchange} (waited : settings.agentWait.run.Makes result calls) :
    calls.filterMap Exchange.connected = [] ∧ calls.filterMap Exchange.closed = [] := by
  have leaves := leaves_awaitReady settings.agentReadyTimeout settings.agentReadyDelay
  obtain ⟨_, rfl, now, later, rfl, pings⟩ := (leaves []).ends waited
  exact pings.sessions

theorem Settings.agentWait_requests {settings : Settings} {result : Except Failure Unit}
    {calls : List Exchange} (waited : settings.agentWait.run.Makes result calls) : ∀ e ∈ calls,
    e.request = .agent .ping ∨ e.request = .now ∨
      e.request = .sleep settings.agentReadyDelay := by
  have leaves := leaves_awaitReady settings.agentReadyTimeout settings.agentReadyDelay
  obtain ⟨_, rfl, now, later, rfl, pings⟩ := (leaves []).ends waited
  simpa using pings.requests

/-- What is asked while a new agent is waited for, and what is returned. -/
inductive Waits (settings : Settings) (registry : RegistryConfig) (tunnel : SshTunnelConfig) :
    Except Failure Unit → List Exchange → Prop
  | alone {result : Except Failure Unit} {calls : List Exchange}
      (without : (registry.isEmpty || tunnel.isEmpty) = true)
      (waited : settings.agentWait.run.Makes result calls) :
      Waits settings registry tunnel result calls
  | unopened {error : SshError} {calls : List Exchange}
      (both : (registry.isEmpty || tunnel.isEmpty) = false)
      (connects : Connects (.forRegistry tunnel registry) settings.sshRetryDelay calls
        (.error error)) :
      Waits settings registry tunnel (.error (.within "Starting SSH tunnel"
        (.within s!"Starting SSH tunnel to '{tunnel.host}:{tunnel.port}'" (.ssh error)))) calls
  | tunnelled {session : Session} {result : Except Failure Unit} {tried calls : List Exchange}
      (both : (registry.isEmpty || tunnel.isEmpty) = false)
      (connects : Connects (.forRegistry tunnel registry) settings.sshRetryDelay tried
        (.ok session))
      (waited : settings.agentWait.run.Makes result calls) (reply : Except ForwardFault Unit) :
      Waits settings registry tunnel result
        (tried ++ ⟨.forward session registry.port registry.port, ()⟩ ::
          (calls ++ [⟨.close session, reply⟩]))

namespace Instance

variable (registry : RegistryConfig) (tunnel : SshTunnelConfig)

theorem leaves_awaitNewAgent (i : Instance) :
    Leaves (i.awaitNewAgent registry tunnel).run (Waits i.settings registry tunnel) := by
  unfold awaitNewAgent
  cases without : registry.isEmpty || tunnel.isEmpty with
  | true => exact (leaves_makes _).weaken fun result calls waited => .alone without waited
  | false =>
    let opening := Tunnel.new i.settings (.forRegistry tunnel registry)
    have starts : Leaves (Tunnel.start.runOn opening) _ := Tunnel.leaves_start rfl
    refine starts.bind ?_
    rintro ⟨failure | ⟨⟩, opened⟩ calls
    · rintro ⟨error, connects, rfl⟩
      refine Leaves.done ?_
      rw [List.append_nil]
      exact .unopened without connects
    · rintro ⟨session, tried, connects, rfl, running⟩
      refine (leaves_makes i.settings.agentWait.run).bind fun result waited ran => ?_
      have closes : Leaves (discard (Tunnel.stop.runOn opened))
          fun _ calls => ∃ reply, calls = [⟨.close session, reply⟩] := by
        refine (Tunnel.leaves_stop running).bind fun _ _ closed => Leaves.done ?_
        rwa [List.append_nil]
      refine closes.bind ?_
      rintro _ _ ⟨reply, rfl⟩
      refine Leaves.done ?_
      rw [List.append_nil, List.append_assoc]
      exact .tunnelled without connects ran reply

theorem leaves_awaitReady (i : Instance) (stage : Stage) :
    Leaves ((awaitReady registry tunnel stage).runOn i) fun r calls =>
      Waits i.settings registry tunnel r.1 calls := by
  refine Stateful.leaves_bind (Stateful.leaves_enter .waitingForAgent) ?_ (by rintro _ _ _ ⟨⟨⟩, -⟩)
  rintro _ _ _ ⟨⟨⟩, rfl⟩
  let waiting := { i with phase := .waitingForAgent }
  have waits := leaves_awaitNewAgent registry tunnel waiting
  refine (Stateful.leaves_engine (Engine.leaves_told waits)).weaken ?_
  rintro r calls ⟨ended, -⟩
  exact ended

end Instance

namespace Waits

variable {settings : Settings} {registry : RegistryConfig} {tunnel : SshTunnelConfig}
  {result : Except Failure Unit} {calls : List Exchange}

section Parts

variable {options : TunnelOptions} {delay : Nat} {session : Session} {tried waited : List Exchange}

/-- One session is opened and closed. -/
theorem sessions_of_tunnelled (connects : Connects options delay tried (.ok session))
    (ran : settings.agentWait.run.Makes result waited) {remotePort localPort : UInt16}
    {reply : Except ForwardFault Unit} (whole : calls = tried ++
      ⟨.forward session remotePort localPort, ()⟩ :: (waited ++ [⟨.close session, reply⟩])) :
    calls.filterMap Exchange.connected = [session] ∧
      calls.filterMap Exchange.closed = [session] := by
  obtain ⟨unopened, unclosed⟩ := Settings.agentWait_sessions ran
  rw [whole, List.filterMap_append, List.filterMap_append, List.filterMap_cons_none rfl,
    List.filterMap_cons_none rfl, List.filterMap_append, List.filterMap_append, connects.sessions,
    connects.unclosed, unopened, unclosed]
  exact ⟨rfl, rfl⟩

/-- No ping is sent before the session is connected. -/
theorem connected_of_ping (connects : Connects options delay tried (.ok session))
    {remotePort localPort : UInt16} {before after later : List Exchange} {ping : Exchange}
    (whole : tried ++ ⟨.forward session remotePort localPort, ()⟩ :: later =
      before ++ ping :: after) (pings : ping.request = .agent .ping) :
    session ∈ before.filterMap Exchange.connected := by
  obtain ⟨more, rfl, -⟩ | ⟨more, rfl, same⟩ := List.append_eq_append_iff.mp whole
  · rw [List.filterMap_append, connects.sessions]
    exact List.mem_append_left _ (List.mem_singleton_self _)
  · cases more with
    | nil =>
      cases same
      cases pings
    | cons other more =>
      obtain ⟨rfl, -⟩ := List.cons.inj same
      have requests := connects.requests ping (by simp)
      simp [pings] at requests

end Parts

theorem closed (waits : Waits settings registry tunnel result calls) :
    calls.filterMap Exchange.closed = calls.filterMap Exchange.connected := by
  cases waits with
  | alone _ waited =>
    obtain ⟨unopened, unclosed⟩ := Settings.agentWait_sessions waited
    rw [unopened, unclosed]
  | unopened _ connects =>
    rw [connects.unclosed, connects.sessions]
    rfl
  | tunnelled _ connects waited =>
    obtain ⟨opened, closed⟩ := sessions_of_tunnelled connects waited rfl
    rw [opened, closed]

/-- Every session has ended as the one who closed it was told. -/
theorem ended {before after : Links} {session : Session}
    (waits : Waits settings registry tunnel result calls) (leads : Leads before calls after)
    (opened : session ∈ calls.filterMap Exchange.connected) :
    ∃ reply, ⟨.close session, reply⟩ ∈ calls ∧ after session = .ended reply := by
  cases waits with
  | alone _ waited =>
    rw [(Settings.agentWait_sessions waited).1] at opened
    cases opened
  | unopened _ connects =>
    rw [connects.sessions] at opened
    cases opened
  | @tunnelled other _ tried waited _ connects ran reply =>
    rw [(sessions_of_tunnelled connects ran rfl).1] at opened
    obtain rfl := List.mem_singleton.mp opened
    refine ⟨reply, by simp, leads.closed ?_⟩
    rw [connects.sessions]
    exact List.mem_singleton_self _

end Waits

/-- While a new agent is waited for, whatever connecting, forwarding, the agent and closing come to,
the sessions that are opened are those that are closed, and all of them have ended when the wait
returns. Without a registry or without a way to reach the machine none is opened. With both, a ping
is sent only when a session was opened; when none could be, no ping is sent and the error of the
last attempt is returned. Whatever closing tells, the wait returns what the agent's wait returns. -/
theorem Instance.awaitReady_closes_sessions {i : Instance} {registry : RegistryConfig}
    {tunnel : SshTunnelConfig} {stage : Stage} {s t : Linked} {r : Except Failure Unit × Instance}
    (ran : ((awaitReady registry tunnel stage).runOn i).Reaches AnswersLinked s (.done r) t) :
    ∃ calls, t.calls = s.calls ++ calls ∧
      calls.filterMap Exchange.closed = calls.filterMap Exchange.connected ∧
      (∀ session, s.links session = .unused → t.links session ≠ .unused →
        session ∈ calls.filterMap Exchange.connected) ∧
      (∀ session ∈ calls.filterMap Exchange.connected,
        ∃ reply, ⟨.close session, reply⟩ ∈ calls ∧ t.links session = .ended reply) ∧
      if registry.isEmpty || tunnel.isEmpty then
        (∀ e ∈ calls, ∀ options, e.request ≠ .connect options) ∧
          i.settings.agentWait.run.Makes r.1 calls
      else
        (∀ before ping after, calls = before ++ ping :: after → ping.request = .agent .ping →
          ∃ session, session ∈ before.filterMap Exchange.connected) ∧
        match calls.filterMap Exchange.connected with
        | [] => (∀ e ∈ calls, e.request ≠ .agent .ping) ∧
          ∃ (error : SshError) (tried : List Exchange) (now : Nat), calls = tried ++
              [⟨.connect (.forRegistry tunnel registry), .error error⟩, ⟨.now, now⟩] ∧
            r.1 = .error (.within "Starting SSH tunnel"
              (.within s!"Starting SSH tunnel to '{tunnel.host}:{tunnel.port}'" (.ssh error)))
        | session :: _ => ∃ opening waited reply,
          calls = opening ++ waited ++ [⟨.close session, reply⟩] ∧
            i.settings.agentWait.run.Makes r.1 waited := by
  obtain ⟨result, ready⟩ := r
  obtain ⟨traced, calls, asked, leads⟩ := ran.leads
  obtain ⟨calls', asked', waits⟩ := (leaves_awaitReady registry tunnel i stage _).ends traced
  obtain rfl : calls = calls' := List.append_cancel_left (asked.symm.trans asked')
  refine ⟨calls, asked, waits.closed, fun _ => leads.used, fun _ => waits.ended leads, ?_⟩
  cases waits with
  | alone without waited =>
    rw [if_pos without]
    refine ⟨fun e member options connect => ?_, waited⟩
    have requests := Settings.agentWait_requests waited e member
    simp [connect] at requests
  | @unopened error _ both connects =>
    have silent : ∀ e ∈ calls, e.request ≠ .agent .ping := by
      intro e member ping
      have requests := connects.requests e member
      simp [ping] at requests
    rw [both, if_neg Bool.false_ne_true, connects.sessions]
    refine ⟨?_, silent, ?_⟩
    · rintro before ping after rfl pings
      exact absurd pings (silent ping (by simp))
    · obtain ⟨tried, now, last⟩ := connects.last
      exact ⟨error, tried, now, last, rfl⟩
  | @tunnelled session _ tried waited both connects waited' reply =>
    rw [both, if_neg Bool.false_ne_true, (Waits.sessions_of_tunnelled connects waited' rfl).1]
    let forward : Exchange := ⟨.forward session registry.port registry.port, ()⟩
    refine ⟨?_, tried ++ [forward], waited, reply, by simp [forward], waited'⟩
    intro before ping after whole pings
    exact ⟨session, Waits.connected_of_ping connects whole pings⟩

def RegistryConfig.admin : RegistryConfig := ⟨"admin", "", "registry", 6901⟩

def SshTunnelConfig.bastion : SshTunnelConfig := ⟨"bastion", 22, "vcap", "", "key"⟩

/-- An instance that gives its agent no time. -/
def Instance.hasty : Instance :=
  ⟨"director", 0, ⟨"vm"⟩, { Settings.standard with agentReadyTimeout := 0 }, .creating⟩

/-- A tunnel that crashes while an agent that never answers is waited for. What is returned is what
the wait for the agent returns. -/
theorem Instance.awaitReady_closes_sessions_crashed :
    ∃ (failure : Failure) (ready : Instance) (t : Linked) (waited : List Exchange),
      ((awaitReady .admin .bastion ⟨"stage"⟩).runOn hasty).Reaches AnswersLinked
        ⟨fun _ => .unused, []⟩ (.done (.error failure, ready)) t ∧
      t.links 0 = .ended (.error .crashed) ∧
      hasty.settings.agentWait.run.Makes (.error failure) waited := by
  have asks (s : Linked) (r : Request) (reply : r.Reply) (expected : r.Plausible reply)
      (fits : Exchange.Fits s.links ⟨r, reply⟩) : AnswersLinked s r reply _ :=
    answersLinked s (fun _ => .stays _) expected fits
  let crashed (links : Links) : Links :=
    fun session => if session = 0 then .ended (.error .crashed) else links session
  have drifts (s : Linked) (forwards : s.links 0 = .forwarding) (session : Session) :
      (s.links session).Drifts (crashed s.links session) := by
    by_cases same : session = 0
    · rw [same, forwards]
      exact .ends _
    · rw [show crashed s.links session = s.links session from if_neg same]
      exact .stays _
  have crashes (s : Linked) (forwards : s.links 0 = .forwarding) (failure : Failure) :
      AnswersLinked s (.agent .ping) (.error failure) _ :=
    answersLinked s (drifts s forwards) trivial trivial
  have told (s : Linked) (notice : Notice) : AnswersLinked s (.report notice) () _ :=
    asks s _ _ trivial trivial
  have connects (s : Linked) (unused : s.links 0 = .unused) (options : TunnelOptions) :
      AnswersLinked s (.connect options) (.ok 0) _ := asks s _ _ trivial unused
  have forwards (s : Linked) (remotePort localPort : UInt16) :
      AnswersLinked s (.forward 0 remotePort localPort) () _ := asks s _ _ trivial trivial
  have reads (s : Linked) : AnswersLinked s .now (0 : Nat) _ := asks s _ _ trivial trivial
  have closes (s : Linked) (finished : s.links 0 = .ended (.error .crashed)) :
      AnswersLinked s (.close 0) (.error .crashed) _ :=
    asks s _ _ trivial fun result same => (Link.ended.inj (same.symm.trans finished)).symm
  have both : (RegistryConfig.admin.isEmpty || SshTunnelConfig.bastion.isEmpty) = false := by
    decide
  obtain ⟨failure, ready, t, ran, opened, closed⟩ : ∃ (failure : Failure) (ready : Instance)
      (t : Linked), ((awaitReady .admin .bastion ⟨"stage"⟩).runOn hasty).Reaches AnswersLinked
        ⟨fun _ => .unused, []⟩ (.done (.error failure, ready)) t ∧
      t.calls.filterMap Exchange.connected = [0] ∧ t.links 0 = .ended (.error .crashed) := by
    unfold awaitReady awaitNewAgent
    rw [both]
    refine ⟨_, _, _, .next (told _ _) <| .next (connects _ rfl _) <| .next (forwards _ _ _) <|
      .next (reads _) <| .next (crashes _ rfl (.timeout "late")) <| .next (closes _ rfl) <|
      .next (told _ _) <| .here _ _, ?_, ?_⟩
    · rfl
    · rfl
  obtain ⟨calls, asked, -, -, -, ended⟩ := awaitReady_closes_sessions ran
  obtain rfl : t.calls = calls := asked
  rw [both, if_neg Bool.false_ne_true, opened] at ended
  obtain ⟨-, -, waited, -, -, makes⟩ := ended
  exact ⟨failure, ready, t, waited, ran, closed, makes⟩

end Reconciler
