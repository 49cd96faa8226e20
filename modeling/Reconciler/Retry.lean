import Reconciler.Clock

/-!
Trying again. An attempt that fails is repeated after a pause, either as long as there is time or
for a number of attempts. The last failure is returned as it is, and no pause is made after it.

Covers `TimeoutRetry` and `AttemptRetry`.
-/
namespace Reconciler

/-- No loop makes more attempts than this when nothing else bounds it. -/
def attemptLimit : Nat := UInt32.size

/-- Repeats attempts until `timeout` has passed. -/
structure TimeoutRetry where
  timeout : Nat
  delay : Nat

namespace TimeoutRetry

variable {m : Type → Type} [Monad m] [Clock m] {ε α : Type}

/-- How many attempts can follow the first: each starts at least one sleep after the one before it
and before the time is over. -/
def furtherAttempts (retry : TimeoutRetry) : Nat :=
  if retry.delay = 0 then attemptLimit else retry.timeout / sleepTime retry.delay

/-- An attempt, and further ones while they fail. No attempt is made whose start would not lie
before the deadline. -/
def attempts (delay deadline : Nat) (attempt : m (Except ε α)) (retryable : ε → Bool) :
    Nat → m (Except ε α)
  | 0 => attempt
  | further + 1 => do
    match ← attempt with
    | .ok value => return .ok value
    | .error failure =>
      if retryable failure then
        if (← Clock.now) + delay < deadline then
          Clock.sleep delay
          attempts delay deadline attempt retryable further
        else return .error failure
      else return .error failure

def run (retry : TimeoutRetry) (attempt : m (Except ε α)) (retryable : ε → Bool) :
    m (Except ε α) := do
  let deadline := (← Clock.now) + retry.timeout
  attempts retry.delay deadline attempt retryable retry.furtherAttempts

end TimeoutRetry

/-- Repeats attempts up to a number of times, and makes at least one. -/
structure AttemptRetry where
  maxAttempts : Nat
  delay : Nat

namespace AttemptRetry

variable {m : Type → Type} [Monad m] [Clock m] {ε α : Type}

def attempts (delay : Nat) (attempt : m (Except ε α)) : Nat → m (Except ε α)
  | 0 => attempt
  | further + 1 => do
    match ← attempt with
    | .ok value => return .ok value
    | .error _ =>
      Clock.sleep delay
      attempts delay attempt further

def run (retry : AttemptRetry) (attempt : m (Except ε α)) : m (Except ε α) :=
  attempts retry.delay attempt (retry.maxAttempts - 1)

end AttemptRetry

end Reconciler
