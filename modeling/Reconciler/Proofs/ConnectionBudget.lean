import Mathlib.Algebra.Order.Floor.Div
import Reconciler.Proofs.Clockwork
import Reconciler.Proofs.RetryWindows

/-!
How many failed connections can be worth another one. Each of them uses up one pause of the window
of its class, and a window that opened does not move. So there are fewer than there are pauses in
the two windows together, whatever the strategy has seen before.
-/
namespace Reconciler

variable {σ β : Type}

/-- Of a window that is left after some time: so many pauses. A window opens when its class is first
seen. -/
def windowLeft (pause window now : Nat) : Option Nat → Nat
  | none => window ⌈/⌉ pause
  | some since => (since + window - now) ⌈/⌉ pause

section Windows

variable {pause window now later other : Nat} {since : Option Nat}

end Windows

namespace SshRetryStrategy

variable {strategy : SshRetryStrategy} {pause now later : Nat} {kind : SshErrorClass}

/-- All that the strategy has kept lies in the past. -/
structure Past (strategy : SshRetryStrategy) (now : Nat) : Prop where
  refused : ∀ time ∈ strategy.refusedSince, time ≤ now
  last : ∀ time ∈ strategy.lastRefused, time ≤ now
  rejected : ∀ time ∈ strategy.authFailingSince, time ≤ now

theorem Past.mono (past : strategy.Past now) (le : now ≤ later) : strategy.Past later where
  refused time kept := (past.refused time kept).trans le
  last time kept := (past.last time kept).trans le
  rejected time kept := (past.rejected time kept).trans le

theorem Past.ofNew (R A now : Nat) : (new R A).Past now := ⟨nofun, nofun, nofun⟩

theorem getD_le {since : Option Nat} {other : Nat} (past : ∀ time ∈ since, time ≤ now)
    (le : other ≤ now) : since.getD other ≤ now := by
  cases since with
  | none => exact le
  | some time => exact past time rfl

theorem Past.judge (past : strategy.Past now) (kind : SshErrorClass) :
    (strategy.judge now kind).2.Past now := by
  cases kind with
  | noCommonAlgorithms => exact past
  | connectionRefused =>
    refine ⟨?_, ?_, past.rejected⟩
    · rintro _ ⟨⟩
      exact getD_le past.refused (le_refl now)
    · rintro _ ⟨⟩
      exact le_refl now
  | authFailure =>
    refine ⟨past.refused, past.last, ?_⟩
    rintro _ ⟨⟩
    exact getD_le past.rejected (getD_le past.last (le_refl now))

/-- How many pauses fit into what is left of the two windows. -/
def left (strategy : SshRetryStrategy) (pause now : Nat) : Nat :=
  windowLeft pause strategy.refusedTimeout now strategy.refusedSince +
    windowLeft pause strategy.authTimeout now strategy.authFailingSince

@[simp] theorem judge_refusedTimeout :
    (strategy.judge now kind).2.refusedTimeout = strategy.refusedTimeout := by
  cases kind <;> rfl

@[simp] theorem judge_authTimeout :
    (strategy.judge now kind).2.authTimeout = strategy.authTimeout := by
  cases kind <;> rfl

end SshRetryStrategy

namespace Series

variable (series : Series σ (Except SshError β)) (strategy : SshRetryStrategy)

/-- The error of an attempt, seen when the attempt ends. -/
def sighting (i : Nat) : Option Sighting :=
  match series.outcome i with
  | .ok _ => none
  | .error error => some ⟨series.endedAt i, error⟩

/-- The errors of the first attempts. -/
def seen (n : Nat) : List Sighting := (List.range n).filterMap series.sighting

/-- The strategy after the first attempts. -/
def judged (n : Nat) : SshRetryStrategy := strategy.after (series.seen n)

/-- An attempt that failed, and that the strategy finds worth another one. -/
def Forgiven (i : Nat) : Prop :=
  ∃ x, series.sighting i = some x ∧ strategy.verdict (series.seen i) x = true

variable {series strategy} {i n : Nat}

theorem seen_succ (n : Nat) :
    series.seen (n + 1) = series.seen n ++ (series.sighting n).toList := by
  rw [seen, List.range_succ, List.filterMap_append]
  cases found : series.sighting n <;> simp [seen, found]

theorem judged_succ (n : Nat) : series.judged strategy (n + 1) =
    match series.sighting n with
    | none => series.judged strategy n
    | some x => ((series.judged strategy n).judge x.time x.error.class).2 := by
  rw [judged, seen_succ]
  cases series.sighting n with
  | none => simp [judged]
  | some x => exact strategy.after_append _ x

theorem sighting_of_ok {session : β} (connected : series.outcome i = .ok session) :
    series.sighting i = none := by
  simp [sighting, connected]

theorem sighting_of_error {error : SshError} (failed : series.outcome i = .error error) :
    series.sighting i = some ⟨series.endedAt i, error⟩ := by
  simp [sighting, failed]

theorem time_of_sighting {x : Sighting} (seen : series.sighting i = some x) :
    x.time = series.endedAt i := by
  unfold sighting at seen
  split at seen <;> cases seen
  rfl

theorem judged_timeouts (series : Series σ (Except SshError β)) (strategy : SshRetryStrategy)
    (n : Nat) :
    (series.judged strategy n).refusedTimeout = strategy.refusedTimeout ∧
      (series.judged strategy n).authTimeout = strategy.authTimeout := by
  induction n with
  | zero => exact ⟨rfl, rfl⟩
  | succ n ih =>
    rw [judged_succ]
    cases series.sighting n with
    | none => exact ih
    | some x => simpa using ih

theorem judged_past_ended (past : (series.judged strategy n).Past (series.beganAt n)) :
    (series.judged strategy (n + 1)).Past (series.endedAt n) := by
  have past := past.mono (series.beganAt_le_endedAt n)
  rw [judged_succ]
  cases seen : series.sighting n with
  | none => exact past
  | some x => exact time_of_sighting seen ▸ past.judge x.error.class

/-- The strategy knows of no time that has not come when an attempt begins. -/
theorem judged_past (past : strategy.Past (series.world.time series.start)) (n : Nat) :
    (series.judged strategy n).Past (series.beganAt n) := by
  induction n with
  | zero => exact past
  | succ n ih =>
    rw [series.beganAt_succ]
    exact (judged_past_ended ih).mono (Nat.le_add_right _ _)

end Series

end Reconciler
