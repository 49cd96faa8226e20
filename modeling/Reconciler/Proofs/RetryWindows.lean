import Mathlib.Data.List.Induction
import Mathlib.Data.List.TakeWhile
import Reconciler.Tunnel.Strategy

/-!
The windows in which a failed connection is worth another attempt. The strategy keeps three times.
Each of them can be found in what was seen so far: the first refusal, the last one, and the moment
from which rejected credentials are counted. So a verdict depends on the errors before it only
through the beginning of the window of its own class, and that beginning does not move.
-/
namespace Reconciler

/-- An SSH error, and when it was seen. -/
structure Sighting where
  time : Nat
  error : SshError
  deriving DecidableEq

namespace Sighting

variable {seen : List Sighting} {x y : Sighting}

end Sighting

namespace SshRetryStrategy

open Sighting

/-- What the strategy has kept after some errors, the first one first. -/
def after (strategy : SshRetryStrategy) (seen : List Sighting) : SshRetryStrategy :=
  seen.foldl (fun strategy x => (strategy.judge x.time x.error.class).2) strategy

/-- Whether an error that comes after others is worth another attempt. -/
def verdict (strategy : SshRetryStrategy) (earlier : List Sighting) (x : Sighting) : Bool :=
  ((strategy.after earlier).judge x.time x.error.class).1

variable {earlier between later : List Sighting} {x y : Sighting} {R A : Nat}

theorem after_append (strategy : SshRetryStrategy) (earlier : List Sighting) (x : Sighting) :
    strategy.after (earlier ++ [x]) =
      ((strategy.after earlier).judge x.time x.error.class).2 := by
  simp [after]

end SshRetryStrategy

end Reconciler
