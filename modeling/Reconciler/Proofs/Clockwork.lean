import Mathlib.Order.Monotone.Basic
import Reconciler.Engine

/-!
Surroundings with a clock. How long a reply takes is up to them; only a look at the clock takes no
time, and a sleep lasts as long as a sleep does. An attempt that is made over and over, with a pause
after each time, begins at moments that depend on how long the attempts before it took.
-/
namespace Reconciler

/-- Surroundings that answer from a state of their own, and know what time it is in it. -/
structure Clockwork (σ : Type) where
  answer : (r : Request) → σ → r.Reply × σ
  time : σ → Nat
  look : ∀ s, answer .now s = (time s, s)
  rest : ∀ ms s, time (answer (.sleep ms) s).2 = time s + sleepTime ms
  onward : ∀ r s, time s ≤ time (answer r s).2

namespace Clockwork

variable {σ α β : Type} (world : Clockwork σ)

def run (p : Program Effects α) (s : σ) : α × σ := p.run world.answer s

theorem run_bind (p : Program Effects α) (f : α → Program Effects β) (s : σ) :
    world.run (p >>= f) s = world.run (f (world.run p s).1) (world.run p s).2 :=
  Program.run_bind (S := Effects) world.answer p f s

@[simp] theorem run_done (a : α) (s : σ) : world.run (.done a) s = (a, s) := rfl

@[simp] theorem run_now (s : σ) :
    world.run (Clock.now : Program Effects Nat) s = (world.time s, s) := world.look s

/-- A pause, and the state after it. -/
def paused (ms : Nat) (s : σ) : σ := (world.answer (.sleep ms) s).2

@[simp] theorem run_sleep (ms : Nat) (s : σ) :
    world.run (Clock.sleep ms : Program Effects Unit) s = ((), world.paused ms s) := rfl

@[simp] theorem time_paused (ms : Nat) (s : σ) :
    world.time (world.paused ms s) = world.time s + sleepTime ms := world.rest ms s

theorem time_le_run (p : Program Effects α) (s : σ) :
    world.time s ≤ world.time (world.run p s).2 := by
  induction p generalizing s with
  | done a => exact le_refl _
  | ask r next ih => exact (world.onward r s).trans (ih _ _)

end Clockwork

/-- Surroundings in which nothing answers. They know when an agent was called or a connection was
tried. -/
structure Silence where
  time : Nat
  tried : List Nat
  deriving DecidableEq

namespace Silence

def noted (s : Silence) : Silence := { s with tried := s.tried ++ [s.time] }

def answer : (r : Request) → Silence → r.Reply × Silence
  | .cloud call, s => (.error ⟨call.method, .other, "no answer"⟩, s)
  | .agent _, s => (.error (.agent "no answer"), s.noted)
  | .render _, s => (.error (.agent "no answer"), s)
  | .load, s => (.error (.storage .notRead), s)
  | .save _, s => (.error (.storage .notWritten), s)
  | .connect _, s => (.error ⟨"connection refused"⟩, s.noted)
  | .forward .., s => ((), s)
  | .close _, s => (.error .crashed, s)
  | .report _, s => ((), s)
  | .now, s => (s.time, s)
  | .sleep ms, s => ((), { s with time := s.time + sleepTime ms })
  | .freshId, s => ("", s)

def world : Clockwork Silence where
  answer := answer
  time := time
  look _ := rfl
  rest _ _ := rfl
  onward r s := by cases r with
    | sleep => exact Nat.le_add_right _ _
    | _ => exact Nat.le_refl s.time

end Silence

/-- A loop that is allowed so many turns after the first ends with the first turn after which it
does not go on, or when its turns are used up. -/
theorem exists_last_turn {ρ : Type} (loop : Nat → Nat → ρ) {ends : Nat → ρ} {goes : Nat → Prop}
    (again : ∀ i further, goes i → loop i (further + 1) = loop (i + 1) further)
    (last : ∀ i further, further = 0 ∨ ¬goes i → loop i further = ends i) (further : Nat) :
    ∃ n ≤ further, loop 0 further = ends n ∧ (∀ i < n, goes i) ∧ (n < further → ¬goes n) := by
  induction further generalizing loop ends goes with
  | zero => exact ⟨0, Nat.le_refl 0, last 0 0 (.inl rfl), nofun, nofun⟩
  | succ further ih =>
    by_cases goesOn : goes 0
    · -- the turns after the first are a loop too
      obtain ⟨n, few, ran, before, after⟩ :=
        ih (fun i => loop (i + 1)) (fun i => again (i + 1)) fun i => last (i + 1)
      refine ⟨n + 1, Nat.succ_le_succ few, (again 0 further goesOn).trans ran, fun i less => ?_,
        fun less => after (Nat.lt_of_succ_lt_succ less)⟩
      cases i with
      | zero => exact goesOn
      | succ i => exact before i (Nat.lt_of_succ_lt_succ less)
    · exact ⟨0, Nat.zero_le _, last 0 _ (.inr goesOn), nofun, fun _ => goesOn⟩

/-- Attempts one after the other, from some state on, with a pause after each of them. -/
structure Series (σ α : Type) where
  world : Clockwork σ
  attempt : Program Effects α
  delay : Nat
  start : σ

namespace Series

variable {σ α : Type} (series : Series σ α)

/-- Where an attempt begins; the first one has number 0. -/
def began : Nat → σ
  | 0 => series.start
  | i + 1 => series.world.paused series.delay (series.world.run series.attempt (began i)).2

def outcome (i : Nat) : α := (series.world.run series.attempt (series.began i)).1

def ended (i : Nat) : σ := (series.world.run series.attempt (series.began i)).2

/-- The moments at which attempts begin and end. -/
def beganAt (i : Nat) : Nat := series.world.time (series.began i)

def endedAt (i : Nat) : Nat := series.world.time (series.ended i)

/-- An attempt begins a pause after the one before it has ended. -/
theorem beganAt_succ (i : Nat) :
    series.beganAt (i + 1) = series.endedAt i + sleepTime series.delay :=
  series.world.time_paused series.delay (series.ended i)

theorem beganAt_le_endedAt (i : Nat) : series.beganAt i ≤ series.endedAt i :=
  series.world.time_le_run series.attempt (series.began i)

theorem endedAt_mono : Monotone series.endedAt := by
  apply monotone_nat_of_le_succ
  intro i
  have := series.beganAt_succ i
  have := series.beganAt_le_endedAt (i + 1)
  omega

/-- An attempt begins at least as many pauses after the first as there were attempts before it. -/
theorem pauses_le_beganAt (i : Nat) :
    series.world.time series.start + i * sleepTime series.delay ≤ series.beganAt i := by
  induction i with
  | zero => simp [beganAt, began]
  | succ i ih =>
    have := series.beganAt_succ i
    have := series.beganAt_le_endedAt i
    rw [Nat.succ_mul]
    omega

end Series

end Reconciler
