import Reconciler.Proofs.ConnectionBudget
import Reconciler.Proofs.EngineRuns
import Reconciler.Tunnel.Basic

/-!
Starts of a tunnel. A start tries to connect until a connection succeeds or fails in a way that is
not worth another one. It comes to that in time, also where the tunnel was started before: what the
strategy remembers from then only makes the attempts fewer.
-/
namespace Reconciler

variable {σ : Type}

namespace Tunnel

theorem connect_zero (tunnel : Tunnel) : (connect 0).run tunnel = do
    match ← connectOnce tunnel.options with
    | .ok session => return (.ok session, tunnel)
    | .error error =>
      let judged := tunnel.strategy.judge (← Clock.now) error.class
      return (.error error, { tunnel with strategy := judged.2 }) := by
  refine congrArg (Program.ask _) (funext fun reply => ?_)
  cases reply with
  | ok session => rfl
  | error error => rfl

theorem connect_succ (further : Nat) (tunnel : Tunnel) : (connect (further + 1)).run tunnel = do
    match ← connectOnce tunnel.options with
    | .ok session => return (.ok session, tunnel)
    | .error error =>
      let judged := tunnel.strategy.judge (← Clock.now) error.class
      if judged.1 then
        Clock.sleep tunnel.retryDelay
        (connect further).run { tunnel with strategy := judged.2 }
      else return (.error error, { tunnel with strategy := judged.2 }) := by
  refine congrArg (Program.ask _) (funext fun reply => ?_)
  cases reply with
  | ok session => rfl
  | error error =>
    refine congrArg (Program.ask _) (funext fun now => ?_)
    change (if (tunnel.strategy.judge now error.class).1 = true then _ else _ :
      StateT Tunnel (Program Effects) (Except SshError Session)).run _ =
      if (tunnel.strategy.judge now error.class).1 = true then _ else _
    cases (tunnel.strategy.judge now error.class).1 with
    | false => rfl
    | true => rfl

/-- The connections that a tunnel tries from some state on, as long as it wants to. -/
def connections (tunnel : Tunnel) (world : Clockwork σ) (s : σ) :
    Series σ (Except SshError Session) :=
  ⟨world, connectOnce tunnel.options, tunnel.retryDelay, s⟩

/-- The tunnel with what its strategy has kept from the first connections. -/
def tried (tunnel : Tunnel) (world : Clockwork σ) (s : σ) (n : Nat) : Tunnel :=
  { tunnel with strategy := (tunnel.connections world s).judged tunnel.strategy n }

variable {world : Clockwork σ} {tunnel : Tunnel} {s : σ} {i : Nat}

theorem run_connected {session : Session}
    (connected : (tunnel.connections world s).outcome i = .ok session) (further : Nat) :
    world.run ((connect further).run (tunnel.tried world s i))
      ((tunnel.connections world s).began i) =
    ((.ok session, tunnel.tried world s i), (tunnel.connections world s).ended i) := by
  have made : world.run (connectOnce (tunnel.tried world s i).options)
    ((tunnel.connections world s).began i) =
      (.ok session, (tunnel.connections world s).ended i) := Prod.ext connected rfl
  cases further with
  | zero =>
    rw [connect_zero, Clockwork.run_bind, made]
    rfl
  | succ further =>
    rw [connect_succ, Clockwork.run_bind, made]
    rfl

theorem tried_of_ok {session : Session}
    (connected : (tunnel.connections world s).outcome i = .ok session) :
    tunnel.tried world s (i + 1) = tunnel.tried world s i := by
  rw [tried, Series.judged_succ, Series.sighting_of_ok connected]
  rfl

theorem tried_of_error {error : SshError}
    (failed : (tunnel.connections world s).outcome i = .error error) :
    tunnel.tried world s (i + 1) = { tunnel.tried world s i with strategy :=
      ((tunnel.tried world s i).strategy.judge
        ((tunnel.connections world s).endedAt i) error.class).2 } := by
  rw [tried, Series.judged_succ, Series.sighting_of_error failed]
  rfl

theorem forgiven_of_error {error : SshError}
    (failed : (tunnel.connections world s).outcome i = .error error) :
    (tunnel.connections world s).Forgiven tunnel.strategy i ↔
      ((tunnel.tried world s i).strategy.judge
        ((tunnel.connections world s).endedAt i) error.class).1 = true := by
  rw [Series.Forgiven, Series.sighting_of_error failed]
  constructor
  · rintro ⟨_, ⟨⟩, again⟩
    exact again
  · exact fun again => ⟨_, rfl, again⟩

/-- A failed connection is judged, and followed by others if it is worth it and some are left. -/
theorem run_failed {error : SshError}
    (failed : (tunnel.connections world s).outcome i = .error error) (further : Nat) :
    let series := tunnel.connections world s
    let next := tunnel.tried world s (i + 1)
    world.run ((connect further).run (tunnel.tried world s i)) (series.began i) =
      match further with
      | 0 => ((.error error, next), series.ended i)
      | further + 1 =>
        if ((tunnel.tried world s i).strategy.judge (series.endedAt i) error.class).1 then
          world.run ((connect further).run next) (series.began (i + 1))
        else ((.error error, next), series.ended i) := by
  intro series next
  have made : world.run (connectOnce (tunnel.tried world s i).options) (series.began i) =
    (.error error, series.ended i) := Prod.ext failed rfl
  have now : world.run (Clock.now : Program Effects Nat) (series.ended i) =
    (series.endedAt i, series.ended i) := world.run_now _
  have judged : next = _ := tried_of_error failed
  rw [judged]
  cases further with
  | zero =>
    rw [connect_zero, Clockwork.run_bind, made]
    simp only [Clockwork.run_bind, now]
    rfl
  | succ further =>
    rw [connect_succ, Clockwork.run_bind, made]
    simp only [Clockwork.run_bind, now]
    change world.run (if _ = true then _ else _) _ = if _ = true then _ else _
    cases ((tunnel.tried world s i).strategy.judge (series.endedAt i) error.class).1 with
    | false => rfl
    | true => rfl

/-- After a failure that is worth it the next connection is tried. -/
theorem run_again (again : (tunnel.connections world s).Forgiven tunnel.strategy i)
    (further : Nat) :
    let series := tunnel.connections world s
    world.run ((connect (further + 1)).run (tunnel.tried world s i)) (series.began i) =
      world.run ((connect further).run (tunnel.tried world s (i + 1))) (series.began (i + 1)) := by
  intro series
  cases outcome : series.outcome i with
  | ok session =>
    obtain ⟨x, seen, -⟩ := again
    cases (Series.sighting_of_ok outcome).symm.trans seen
  | error error =>
    rw [run_failed outcome]
    exact if_pos ((forgiven_of_error outcome).mp again)

/-- Otherwise the connection is the last, and its result is returned. -/
theorem run_last {further : Nat}
    (stops : further = 0 ∨ ¬(tunnel.connections world s).Forgiven tunnel.strategy i) :
    let series := tunnel.connections world s
    world.run ((connect further).run (tunnel.tried world s i)) (series.began i) =
      ((series.outcome i, tunnel.tried world s (i + 1)), series.ended i) := by
  intro series
  cases outcome : series.outcome i with
  | ok session => rw [run_connected outcome, tried_of_ok outcome]
  | error error =>
    rw [run_failed outcome]
    cases further with
    | zero => rfl
    | succ further =>
      have final := stops.resolve_left (Nat.succ_ne_zero further)
      exact if_neg fun again => final ((forgiven_of_error outcome).mpr again)

/-- Connections are tried as long as they fail in ways that are worth another one, up to a number
of them. -/
theorem run_connect (further : Nat) (tunnel : Tunnel) (world : Clockwork σ) (s : σ) :
    let series := tunnel.connections world s
    ∃ n ≤ further, world.run ((connect further).run tunnel) s =
        ((series.outcome n, tunnel.tried world s (n + 1)), series.ended n) ∧
      (∀ i < n, series.Forgiven tunnel.strategy i) ∧
      (n < further → ¬series.Forgiven tunnel.strategy n) :=
  exists_last_turn (fun i further => world.run ((connect further).run (tunnel.tried world s i))
      ((tunnel.connections world s).began i))
    (fun _ further again => run_again again further) (fun _ _ stops => run_last stops) further

/-- What a start leaves whose last connection is known by its number. -/
def startedAfter (tunnel : Tunnel) (world : Clockwork σ) (s : σ) (n : Nat) :
    (Except Failure Unit × Tunnel) × σ :=
  let series := tunnel.connections world s
  let left := tunnel.tried world s (n + 1)
  match series.outcome n with
  | .ok session =>
    ((.ok (), { left with session := some session }),
      (world.answer (.forward session tunnel.options.remotePort tunnel.options.localPort)
        (series.ended n)).2)
  | .error error =>
    ((.error (.within s!"Starting SSH tunnel to '{tunnel.options.host}:{tunnel.options.port}'"
      (.ssh error)), left), series.ended n)

/-- A start connects, and what comes of the last connection decides. -/
theorem run_start (world : Clockwork σ) (s : σ) (fresh : tunnel.session = none) :
    let series := tunnel.connections world s
    ∃ n ≤ tunnel.furtherAttempts,
      world.run (start.runOn tunnel) s = tunnel.startedAfter world s n ∧
      (∀ i < n, series.Forgiven tunnel.strategy i) ∧
      (n < tunnel.furtherAttempts → ¬series.Forgiven tunnel.strategy n) := by
  intro series
  obtain ⟨n, bound, ran, before, after⟩ := run_connect tunnel.furtherAttempts tunnel world s
  refine ⟨n, bound, ?_, before, after⟩
  rw [start, Stateful.runOn_get, isRunning, fresh]
  change world.run (Stateful.runOn (_ >>= _) tunnel) s = _
  rw [Stateful.runOn_state, Clockwork.run_bind, ran, startedAfter]
  cases (tunnel.connections world s).outcome n with
  | ok session => rfl
  | error error => rfl

theorem run_start_running {session : Session} (running : tunnel.session = some session) :
    world.run (start.runOn tunnel) s =
      ((.error (.invalidState .tunnelAlreadyStarted), tunnel), s) := by
  rw [start, Stateful.runOn_get, isRunning, running]
  rfl

theorem run_stop : (world.run (stop.runOn tunnel) s).1.2 = { tunnel with session := none } := by
  obtain ⟨options, strategy, delay, session⟩ := tunnel
  rw [stop, Stateful.runOn_get]
  cases session with
  | none => rfl
  | some session =>
    rw [Stateful.runOn_modify]
    change (world.run ((ask (.close session) : Program Effects (Except ForwardFault Unit)) >>= _ :
      Program Effects (Except Failure Unit × Tunnel)) s).1.2 = _
    rw [Clockwork.run_bind]
    match world.run (ask (.close session) : Program Effects (Except ForwardFault Unit)) s with
    | (.ok (), _) => rfl
    | (.error (.failed _), _) => rfl
    | (.error .crashed, _) => rfl

variable {settings : Settings} {options : TunnelOptions}

/-- A tunnel that was made for some settings, and was started and stopped any number of times since,
with anything else in between. -/
inductive Used (world : Clockwork σ) (settings : Settings) (options : TunnelOptions) :
    Tunnel → σ → Prop
  | new (s : σ) : Used world settings options (.new settings options) s
  | started {tunnel : Tunnel} {s : σ} (used : Used world settings options tunnel s) :
      Used world settings options (world.run (start.runOn tunnel) s).1.2
        (world.run (start.runOn tunnel) s).2
  | stopped {tunnel : Tunnel} {s : σ} (used : Used world settings options tunnel s) :
      Used world settings options (world.run (stop.runOn tunnel) s).1.2
        (world.run (stop.runOn tunnel) s).2
  | later {tunnel : Tunnel} {s t : σ} (used : Used world settings options tunnel s)
      (onward : world.time s ≤ world.time t) : Used world settings options tunnel t

/-- What stays true of a tunnel. -/
structure Lasting (settings : Settings) (options : TunnelOptions) (tunnel : Tunnel) (now : Nat) :
    Prop where
  options : tunnel.options = options
  delay : tunnel.retryDelay = settings.sshRetryDelay
  refused : tunnel.strategy.refusedTimeout = settings.sshRefusedTimeout
  rejected : tunnel.strategy.authTimeout = settings.sshAuthTimeout
  past : tunnel.strategy.Past now

theorem Lasting.start (lasting : tunnel.Lasting settings options (world.time s)) :
    (world.run (start.runOn tunnel) s).1.2.Lasting settings options
      (world.time (world.run (start.runOn tunnel) s).2) := by
  cases running : tunnel.session with
  | some session =>
    rw [run_start_running running]
    exact lasting
  | none =>
    let series := tunnel.connections world s
    obtain ⟨n, -, ran, -⟩ := run_start world s running
    have timeouts := series.judged_timeouts tunnel.strategy (n + 1)
    have past : (series.judged tunnel.strategy (n + 1)).Past (series.endedAt n) :=
      Series.judged_past_ended (Series.judged_past lasting.past n)
    rw [ran, startedAfter]
    cases (tunnel.connections world s).outcome n with
    | ok session =>
      exact ⟨lasting.options, lasting.delay, timeouts.1.trans lasting.refused,
        timeouts.2.trans lasting.rejected, past.mono (world.onward _ _)⟩
    | error error =>
      exact ⟨lasting.options, lasting.delay, timeouts.1.trans lasting.refused,
        timeouts.2.trans lasting.rejected, past⟩

theorem Used.lasting (used : Used world settings options tunnel s) :
    tunnel.Lasting settings options (world.time s) := by
  induction used with
  | new s => exact ⟨rfl, rfl, rfl, rfl, .ofNew _ _ _⟩
  | started _ ih => exact ih.start
  | stopped _ ih =>
    rw [run_stop]
    exact ⟨ih.options, ih.delay, ih.refused, ih.rejected, ih.past.mono (world.time_le_run _ _)⟩
  | later _ onward ih => exact { ih with past := ih.past.mono onward }

end Tunnel

end Reconciler
