import Reconciler.Failure
import Reconciler.Json.Basic
import Reconciler.Retry

/-!
Attempts with a known outcome on a clock of their own, to watch how they are repeated.
-/
namespace Reconciler

/-- What comes of an attempt, and how long it takes. -/
structure Attempt where
  takes : Nat
  outcome : Except Failure Json

structure Trial where
  now : Nat
  count : Nat
  /-- When the last attempts started, the last one first. -/
  starts : List Nat

namespace Trial

/-- Starts beyond this number are forgotten. -/
def memory : Nat := 40

abbrev Live := StateM Trial

instance : Clock Live where
  now := return (← get).now
  sleep ms := modify fun t => { t with now := t.now + sleepTime ms }

/-- The next attempt of a list, whose last one repeats. -/
def attempt (attempts : Array Attempt) : Live (Except Failure Json) := modifyGet fun t =>
  let next := (attempts[min t.count (attempts.size - 1)]?).getD ⟨0, .ok .null⟩
  (next.outcome, ⟨t.now + sleepTime next.takes, t.count + 1, (t.now :: t.starts).take memory⟩)

/-- Runs from the start of the clock. -/
def run {α : Type} (live : Live α) : α × Trial := Id.run (StateT.run live ⟨0, 0, []⟩)

end Trial

end Reconciler
