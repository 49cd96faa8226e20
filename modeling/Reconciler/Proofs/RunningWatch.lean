import Reconciler.Instance.Lifecycle
import Reconciler.Proofs.Clockwork

/-!
Watching the jobs of an instance until they run. After a first pause the jobs are looked at over and
over, with a pause between two looks, until they run or as many looks were made as fit into the
window of the watch. So no look is made outside of the window, as long as looking takes no time.
-/
namespace Reconciler

variable {σ ε α : Type}

namespace Series

variable (series : Series σ (Except ε α))

def Missed (i : Nat) : Prop := ∃ failure, series.outcome i = .error failure

/-- Attempts that are made until one does not fail, but at most so many of them; `last` is the
number of the last one made. -/
structure Tries (most last : Nat) : Prop where
  few : last < most
  missed : ∀ i < last, series.Missed i
  ends : last + 1 = most ∨ ¬series.Missed last

variable {series}

/-- When attempts take no time, there are only pauses between them. -/
theorem beganAt_of_instant {n : Nat} (instant : ∀ i < n, series.endedAt i = series.beganAt i) :
    series.beganAt n = series.beganAt 0 + n * sleepTime series.delay := by
  induction n with
  | zero => simp
  | succ n ih =>
    have before := ih fun i less => instant i (by omega)
    rw [series.beganAt_succ, instant n (by omega), before, Nat.succ_mul]
    omega

end Series

namespace AttemptRetry

variable {series : Series σ (Except ε α)} {i : Nat}

theorem run_again (missed : series.Missed i) (further : Nat) :
    series.world.run (attempts series.delay series.attempt (further + 1)) (series.began i) =
      series.world.run (attempts series.delay series.attempt further) (series.began (i + 1)) := by
  obtain ⟨failure, failed⟩ := missed
  have made : series.world.run series.attempt (series.began i) =
    (.error failure, series.ended i) := Prod.ext failed rfl
  rw [attempts, Clockwork.run_bind, made]
  simp only [Clockwork.run_bind, Clockwork.run_sleep]
  rfl

theorem run_last {further : Nat} (stops : further = 0 ∨ ¬series.Missed i) :
    series.world.run (attempts series.delay series.attempt further) (series.began i) =
      (series.outcome i, series.ended i) := by
  cases further with
  | zero => rfl
  | succ further =>
    have made : series.world.run series.attempt (series.began i) =
      (series.outcome i, series.ended i) := rfl
    rw [attempts, Clockwork.run_bind, made]
    cases outcome : series.outcome i with
    | ok value => rfl
    | error failure => exact absurd ⟨failure, outcome⟩ (stops.resolve_left (Nat.succ_ne_zero _))

theorem run_tries (retry : AttemptRetry) (world : Clockwork σ)
    (attempt : Program Effects (Except ε α)) (s : σ) :
    let series : Series σ (Except ε α) := ⟨world, attempt, retry.delay, s⟩
    ∃ n, world.run (retry.run attempt) s = (series.outcome n, series.ended n) ∧
      series.Tries (max 1 retry.maxAttempts) n := by
  intro series
  obtain ⟨n, few, ran, before, after⟩ := exists_last_turn
    (fun i further => series.world.run (attempts series.delay series.attempt further)
      (series.began i))
    (fun i further (missed : series.Missed i) => run_again missed further)
    (fun _ _ stops => run_last stops) (retry.maxAttempts - 1)
  refine ⟨n, ran, by omega, before, ?_⟩
  by_cases more : n < retry.maxAttempts - 1
  · exact .inr (after more)
  · exact .inl (by omega)

end AttemptRetry

/-- What a look at the jobs makes of the agent's answer. -/
def Agent.seen : Except Failure AgentState → Except Failure Unit
  | .ok state =>
    if state.isRunning then .ok ()
    else .error (.agent s!"Received non-running job state: '{state.jobState}'")
  | .error failure => .error (.within "Sending get_state to agent" failure)

theorem Agent.seen_eq_ok {reply : Except Failure AgentState} :
    seen reply = .ok () ↔ ∃ state, reply = .ok state ∧ state.isRunning = true := by
  cases reply with
  | error failure => simp [seen]
  | ok state => by_cases running : state.isRunning = true <;> simp [seen, running]

/-- A look at the jobs is one call to the agent. -/
theorem Agent.run_checkRunning (world : Clockwork σ) (s : σ) :
    world.run checkRunning.run s =
      (seen (world.answer (.agent .getState) s).1, (world.answer (.agent .getState) s).2) := by
  have judged (state : AgentState) :
      (if state.isRunning then return ()
        else throw (.agent s!"Received non-running job state: '{state.jobState}'") :
          Engine Unit).run = .done (seen (.ok state)) := by
    by_cases running : state.isRunning = true
    · simp only [seen, running, if_true]
      rfl
    · simp only [seen, running]
      rfl
  have asks : checkRunning.run =
      .ask (.agent .getState) fun reply : Except Failure AgentState => .done (seen reply) := by
    refine congrArg (Program.ask (S := Effects) (.agent .getState)) (funext fun reply => ?_)
    cases reply with
    | error failure => rfl
    | ok state => exact judged state
  rw [asks]
  rfl

namespace Instance

section Attempts

variable {start finish delay i : Nat}

theorem watchAttempts_lt : watchAttempts start finish delay < UInt32.size :=
  Nat.lt_of_le_of_lt (Nat.min_le_right ..) (by decide)

/-- What begins after so many delays still lies before the end of the window. -/
theorem before_finish (opens : start < finish)
    (few : i < max 1 (watchAttempts start finish delay)) : start + i * delay < finish := by
  have fits : watchAttempts start finish delay * max delay 1 ≤ finish - start :=
    (Nat.mul_le_mul_right _ (Nat.min_le_left ..)).trans (Nat.div_mul_le_self ..)
  cases i with
  | zero => omega
  | succ i =>
    have counted : (i + 2) * max delay 1 ≤ watchAttempts start finish delay * max delay 1 :=
      Nat.mul_le_mul_right _ (by omega)
    have delays : (i + 1) * delay ≤ (i + 1) * max delay 1 :=
      Nat.mul_le_mul_left _ (Nat.le_max_left ..)
    rw [Nat.succ_mul] at counted
    omega

/-- The number of attempts comes out the same when it is worked out with 64 bits and then cut down
to 32: the difference does not fall below zero, nothing is divided by zero, and what is cut down
fits. -/
theorem watchAttempts_words (start finish delay : UInt64) :
    watchAttempts start.toNat finish.toNat delay.toNat =
      (min ((max start finish - start) / max delay 1) 0xffffffff).toUInt32.toNat := by
  have least : start ≤ max start finish := by
    rw [UInt64.le_iff_toNat_le, UInt64.toNat_max]
    exact Nat.le_max_left ..
  have difference : (max start finish - start).toNat = finish.toNat - start.toNat := by
    rw [UInt64.toNat_sub_of_le _ _ least, UInt64.toNat_max]
    omega
  have fits : (min ((max start finish - start) / max delay 1) 0xffffffff).toNat < UInt32.size := by
    rw [UInt64.toNat_min]
    exact Nat.lt_of_le_of_lt (Nat.min_le_right ..) (by decide)
  rw [UInt64.toNat_toUInt32, Nat.mod_eq_of_lt fits, UInt64.toNat_min, UInt64.toNat_div, difference,
    UInt64.toNat_max]
  rfl

end Attempts

/-- The step in which the jobs are watched. -/
def watchStep (i : Instance) : String := s!"Waiting for instance '{i.label}' to be running"

/-- A watch that has begun at some moment and has made its polls up to the one numbered `last`. A
poll is one call to the agent. -/
structure Watched (polls : Series σ (Except Failure Unit)) (watch : WatchTime)
    (since last : Nat) (result : Except Failure Unit) : Prop where
  opened : polls.beganAt 0 = since + sleepTime watch.start.toNat
  asked : ∀ i, (polls.outcome i, polls.ended i) =
    (Agent.seen (polls.world.answer (.agent .getState) (polls.began i)).1,
      (polls.world.answer (.agent .getState) (polls.began i)).2)
  spaced : ∀ i, polls.beganAt (i + 1) = polls.endedAt i + sleepTime polls.delay
  tries : polls.Tries (max 1 (min ((watch.finish.toNat - watch.start.toNat) / max polls.delay 1)
    (UInt32.size - 1))) last
  counted : last + 1 < UInt32.size
  told : result = polls.outcome last
  running : result = .ok () ↔ ∃ i ≤ last, ∃ state,
    (polls.world.answer (.agent .getState) (polls.began i)).1 = .ok state ∧ state.isRunning = true
  inWindow : watch.start < watch.finish → (∀ i < last, polls.endedAt i = polls.beganAt i) →
    ∀ i ≤ last, since + sleepTime watch.start.toNat ≤ polls.beganAt i ∧
      polls.beganAt i < since + watch.finish.toNat

section Runs

variable (i : Instance) (stage : Stage) (watch : WatchTime) (world : Clockwork σ) (s : σ)

/-- The surroundings once the step has been opened. -/
def watchOpened : σ :=
  (world.answer (.report (.step (stage.opening i.watchStep))) s).2

def polls : Series σ (Except Failure Unit) :=
  ⟨world, Agent.checkRunning.run, i.settings.runningPollDelay,
    world.paused watch.start.toNat (i.watchOpened stage world s)⟩

/-- The surroundings once the step has been closed. -/
def watchClosed (result : Except Failure Unit) : σ :=
  (world.answer (.report (.step (stage.closing i.watchStep (result.map fun _ => .finished)))) s).2

theorem run_awaitRunningJobs {result : Except Failure Unit} {after : σ}
    (ran : world.run (Agent.awaitRunning (watchAttempts watch.start.toNat watch.finish.toNat
        i.settings.runningPollDelay) i.settings.runningPollDelay).run
      (world.paused watch.start.toNat (i.watchOpened stage world s)) = (result, after)) :
    world.run (i.awaitRunningJobs stage watch).run s =
      (result, i.watchClosed stage world after result) := by
  have told (notice : Notice) (s : σ) :
    world.run (Reporter.report notice : Program Effects Unit) s =
      ((), (world.answer (.report notice) s).2) := rfl
  have body : world.run (ExceptT.run do
      Engine.sleep watch.start.toNat
      Agent.awaitRunning (watchAttempts watch.start.toNat watch.finish.toNat
        i.settings.runningPollDelay) i.settings.runningPollDelay)
      (i.watchOpened stage world s) = (result, after) := ran
  unfold watchOpened watchStep at body
  unfold awaitRunningJobs Engine.runStep Stage.run Stage.step
  rw [ExceptT.run_mk]
  simp only [Clockwork.run_bind, told, body]
  rfl

/-- The poll that the watch ends with decides: those before it have failed. -/
theorem watched_of_tries {last : Nat}
    (tries : (i.polls stage watch world s).Tries (max 1 (watchAttempts watch.start.toNat
      watch.finish.toNat i.settings.runningPollDelay)) last) :
    Watched (i.polls stage watch world s) watch (world.time (i.watchOpened stage world s)) last
      ((i.polls stage watch world s).outcome last) := by
  have opened : (i.polls stage watch world s).beganAt 0 =
      world.time (i.watchOpened stage world s) + sleepTime watch.start.toNat :=
    world.time_paused _ _
  have asked (n : Nat) := Agent.run_checkRunning world ((i.polls stage watch world s).began n)
  have verdict (n : Nat) := congrArg Prod.fst (asked n)
  refine ⟨opened, asked, Series.beganAt_succ _, tries,
    Nat.lt_of_le_of_lt tries.few (max_lt (by decide) watchAttempts_lt), rfl, ?running, ?inWindow⟩
  case running =>
    constructor
    · intro ran
      exact ⟨last, le_refl _, Agent.seen_eq_ok.mp ((verdict last).symm.trans ran)⟩
    · rintro ⟨n, le, state, answered, running⟩
      have ran := (verdict n).trans (Agent.seen_eq_ok.mpr ⟨state, answered, running⟩)
      obtain less | rfl := Nat.lt_or_eq_of_le le
      · obtain ⟨failure, failed⟩ := tries.missed n less
        cases failed.symm.trans ran
      · exact ran
  case inWindow =>
    intro opens instant n le
    have began := Series.beganAt_of_instant fun j (less : j < n) => instant j (by omega)
    have pauses : n * sleepTime i.settings.runningPollDelay ≤ n * i.settings.runningPollDelay :=
      Nat.mul_le_mul_left _ (sleepTime_le _)
    have within := before_finish (UInt64.lt_iff_toNat_lt.mp opens)
      (Nat.lt_of_le_of_lt le tries.few)
    have first := sleepTime_le watch.start.toNat
    rw [began, opened]
    change _ ≤ _ + n * sleepTime i.settings.runningPollDelay ∧
      _ + n * sleepTime i.settings.runningPollDelay < _
    omega

end Runs

/-- A watch polls inside its window: after a pause for as long as the window starts, with pauses
between the polls, and so often as they fit. It ends with the first poll that finds the jobs
running, or with the last poll that fits, whose failure it returns. No number on the way outgrows
its word. -/
theorem awaitRunningJobs_keeps_window (i : Instance) (stage : Stage) (watch : WatchTime)
    (world : Clockwork σ) (s : σ) :
    let polls := i.polls stage watch world s
    (∃ last result,
      world.run (i.awaitRunningJobs stage watch).run s =
        (result, i.watchClosed stage world (polls.ended last) result) ∧
      Watched polls watch (world.time (i.watchOpened stage world s)) last result) ∧
    ∀ delay : UInt64, delay.toNat = i.settings.runningPollDelay →
      watchAttempts watch.start.toNat watch.finish.toNat i.settings.runningPollDelay =
        (min ((max watch.start watch.finish - watch.start) / max delay 1)
          0xffffffff).toUInt32.toNat := by
  intro polls
  obtain ⟨last, ran, tries⟩ := AttemptRetry.run_tries
    ⟨watchAttempts watch.start.toNat watch.finish.toNat i.settings.runningPollDelay,
      i.settings.runningPollDelay⟩ world Agent.checkRunning.run polls.start
  refine ⟨⟨last, polls.outcome last, i.run_awaitRunningJobs stage watch world s ran,
    i.watched_of_tries stage watch world s tries⟩, fun delay same => ?_⟩
  rw [← same]
  exact watchAttempts_words watch.start watch.finish delay

/-- An agent that does not answer is asked between the first second and the third. -/
theorem awaitRunningJobs_keeps_window_silent :
    let i : Instance := ⟨"director", 0, ⟨"vm"⟩, .standard, .stopped⟩
    let watch : WatchTime := ⟨1000, 3000⟩
    let polls := i.polls ⟨"deploying"⟩ watch Silence.world ⟨0, []⟩
    (1000 : UInt64).toNat = i.settings.runningPollDelay ∧ watch.start < watch.finish ∧
      watchAttempts 1000 3000 i.settings.runningPollDelay = 2 ∧
      ∃ last < 2, polls.outcome last = .error (.within "Sending get_state to agent"
        (.agent "no answer")) ∧ ∀ n ≤ last, 1000 ≤ polls.beganAt n ∧ polls.beganAt n < 3000 := by
  intro i watch polls
  have opens : watch.start < watch.finish := by decide
  obtain ⟨⟨last, result, -, watched⟩, words⟩ :=
    i.awaitRunningJobs_keeps_window ⟨"deploying"⟩ watch Silence.world ⟨0, []⟩
  have instant (n : Nat) (_ : n < last) : polls.endedAt n = polls.beganAt n :=
    congrArg (fun ended => ended.2.time) (watched.asked n)
  have two : watchAttempts 1000 3000 i.settings.runningPollDelay = 2 :=
    (words 1000 rfl).trans (by decide)
  have few : last < max 1 (watchAttempts 1000 3000 i.settings.runningPollDelay) :=
    watched.tries.few
  rw [two] at few
  exact ⟨rfl, opens, two, last, few, congrArg Prod.fst (watched.asked last),
    watched.inWindow opens instant⟩

/-- No pause lasts longer than thirty years, so a window that starts later than that is looked into
too early. -/
theorem awaitRunningJobs_early :
    let i : Instance := ⟨"director", 0, ⟨"vm"⟩, .standard, .stopped⟩
    let watch : WatchTime := ⟨1000000000000, 1000000001000⟩
    let ran := Silence.world.run (i.awaitRunningJobs ⟨"deploying"⟩ watch).run ⟨0, []⟩
    ran.2.tried = [946080000000] ∧ ¬∀ t ∈ ran.2.tried, watch.start.toNat ≤ t := by
  decide +kernel

end Instance

end Reconciler
