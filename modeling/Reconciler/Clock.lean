/-!
Time, counted in milliseconds from some start.

The clock is the one of the runtime, whose timer sleeps no longer than thirty years at a time.
-/
namespace Reconciler

/-- No single sleep lasts longer than thirty years of 365 days. -/
def longestSleep : Nat := 30 * 365 * 24 * 60 * 60 * 1000

/-- How long a sleep lasts that was asked to last so many milliseconds. -/
def sleepTime (ms : Nat) : Nat := min ms longestSleep

theorem sleepTime_le (ms : Nat) : sleepTime ms ≤ ms := Nat.min_le_left ..

/-- Surroundings in which time passes. After a sleep it is `sleepTime` later. -/
class Clock (m : Type → Type) where
  now : m Nat
  sleep (ms : Nat) : m Unit

end Reconciler
