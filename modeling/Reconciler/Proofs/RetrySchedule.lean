import Reconciler.Machine.Agent
import Reconciler.Proofs.Clockwork

/-!
When attempts are made that are repeated for a time. An attempt is followed by another if it failed
in a way that is worth one and a further delay would not cross the deadline. So how many there are
depends on how long each of them takes, and there is no pause after the last one.
-/
namespace Reconciler

variable {σ ε α : Type}

namespace Series

variable (series : Series σ (Except ε α)) (retryable : ε → Bool)

/-- An attempt that failed in a way that is worth another one. -/
def Fails (i : Nat) : Prop :=
  ∃ failure, series.outcome i = .error failure ∧ retryable failure = true

/-- An attempt after which there is time for another one. -/
def HasTime (deadline i : Nat) : Prop := series.endedAt i + series.delay < deadline

/-- How many attempts follow the first within a timeout, and when they begin. Without a delay
`attemptLimit` bounds them too. -/
structure Keeps (timeout further : Nat) : Prop where
  again : ∀ i < further, series.Fails retryable i ∧
    series.HasTime (series.world.time series.start + timeout) i
  schedule : ∀ i, 0 < series.delay ∨ i < attemptLimit → (i < further ↔
    (∀ j ≤ i, series.Fails retryable j) ∧
      series.HasTime (series.world.time series.start + timeout) i)
  spaced : ∀ i, series.beganAt (i + 1) = series.endedAt i + sleepTime series.delay
  few : further = 0 ∨ further * sleepTime series.delay < timeout

variable {series retryable} {deadline i j : Nat}

theorem HasTime.earlier (hasTime : series.HasTime deadline j) (before : i ≤ j) :
    series.HasTime deadline i := by
  have := series.endedAt_mono before
  unfold HasTime at hasTime ⊢
  omega

/-- An attempt that leaves time for another has left time for a pause after each attempt so far. -/
theorem HasTime.pauses {timeout : Nat}
    (hasTime : series.HasTime (series.world.time series.start + timeout) i) :
    (i + 1) * sleepTime series.delay < timeout := by
  have := series.pauses_le_beganAt i
  have := series.beganAt_le_endedAt i
  have := sleepTime_le series.delay
  unfold HasTime at hasTime
  rw [Nat.succ_mul]
  omega

end Series

namespace TimeoutRetry

variable {series : Series σ (Except ε α)} {retryable : ε → Bool} {deadline : Nat}

/-- Where an attempt has failed in a way that is worth another, with time left, the next follows. -/
theorem run_again {i : Nat} (fails : series.Fails retryable i) (hasTime : series.HasTime deadline i)
    (further : Nat) :
    series.world.run (attempts series.delay deadline series.attempt retryable (further + 1))
      (series.began i) =
    series.world.run (attempts series.delay deadline series.attempt retryable further)
      (series.began (i + 1)) := by
  obtain ⟨failure, failed, worth⟩ := fails
  have made : series.world.run series.attempt (series.began i) =
    (.error failure, series.ended i) := Prod.ext failed rfl
  have inTime : series.world.time (series.ended i) + series.delay < deadline := hasTime
  rw [attempts, Clockwork.run_bind, made]
  simp only [worth, if_true, Clockwork.run_bind, Clockwork.run_now, inTime, Clockwork.run_sleep]
  rfl

/-- Otherwise the attempt is the last, and it is the end. -/
theorem run_last {i further : Nat}
    (stops : further = 0 ∨ ¬(series.Fails retryable i ∧ series.HasTime deadline i)) :
    series.world.run (attempts series.delay deadline series.attempt retryable further)
      (series.began i) = (series.outcome i, series.ended i) := by
  cases further with
  | zero => rfl
  | succ further =>
    have final := stops.resolve_left (Nat.succ_ne_zero further)
    have made : series.world.run series.attempt (series.began i) =
      (series.outcome i, series.ended i) := rfl
    rw [attempts, Clockwork.run_bind, made]
    cases outcome : series.outcome i with
    | ok value => rfl
    | error failure =>
      cases worth : retryable failure with
      | false => simp [worth]
      | true =>
        have late : ¬series.world.time (series.ended i) + series.delay < deadline :=
          fun hasTime => final ⟨⟨failure, outcome, worth⟩, hasTime⟩
        simp [worth, Clockwork.run_bind, late]

end TimeoutRetry

namespace Agent

end Agent

end Reconciler
