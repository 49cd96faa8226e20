import Reconciler.Failure

/-!
Which failed SSH connections are worth another attempt. Errors fall into classes and each class has
its own window of time. A window opens when its class is first seen; the window of rejected
credentials opens at the last refusal before that, the latest moment the host was known to be down.

Covers `SshErrorClass` and `SshRetryStrategy` (`is_retryable`).
-/
namespace Reconciler

inductive SshErrorClass
  /-- Nothing listens yet; also any error that is not known better. -/
  | connectionRefused
  /-- The host is up and rejects the credentials. -/
  | authFailure
  /-- The two sides do not speak the same protocol. -/
  | noCommonAlgorithms
  deriving DecidableEq, Repr

def SshErrorClass.name : SshErrorClass → String
  | .connectionRefused => "connection_refused"
  | .authFailure => "auth_failure"
  | .noCommonAlgorithms => "no_common_algorithms"

/-- Whether a text occurs somewhere in another. -/
def occursIn (part : List Char) : List Char → Bool
  | [] => part.isEmpty
  | c :: cs => part.isPrefixOf (c :: cs) || occursIn part cs

def SshError.class (error : SshError) : SshErrorClass :=
  let text := error.message.toList
  if occursIn "no common algorithms".toList text then .noCommonAlgorithms
  else if occursIn "unable to authenticate".toList text then .authFailure
  else .connectionRefused

structure SshRetryStrategy where
  refusedTimeout : Nat
  authTimeout : Nat
  refusedSince : Option Nat
  lastRefused : Option Nat
  authFailingSince : Option Nat
  deriving DecidableEq

namespace SshRetryStrategy

def new (refusedTimeout authTimeout : Nat) : SshRetryStrategy :=
  ⟨refusedTimeout, authTimeout, none, none, none⟩

/-- Whether to try again after an error of a class, and what is known afterwards. -/
def judge (strategy : SshRetryStrategy) (now : Nat) : SshErrorClass → Bool × SshRetryStrategy
  | .noCommonAlgorithms => (false, strategy)
  | .authFailure =>
    let since := strategy.authFailingSince.getD (strategy.lastRefused.getD now)
    (now < since + strategy.authTimeout, { strategy with authFailingSince := some since })
  | .connectionRefused =>
    let since := strategy.refusedSince.getD now
    (now < since + strategy.refusedTimeout,
      { strategy with refusedSince := some since, lastRefused := some now })

end SshRetryStrategy

end Reconciler
