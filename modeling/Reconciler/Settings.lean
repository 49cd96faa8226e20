import Reconciler.Json.Reading

/-!
How patient the engine is. Spans are in milliseconds.

Covers `DeployerConfig`.
-/
namespace Reconciler

structure Settings where
  /-- How long an agent is pinged before it is given up during a teardown. -/
  pingTimeout : Nat
  pingDelay : Nat
  /-- How long the agent of a new machine has to answer. -/
  agentReadyTimeout : Nat
  agentReadyDelay : Nat
  /-- Time between two looks at whether the jobs run. -/
  runningPollDelay : Nat
  /-- How long refused and unknown SSH errors are retried. -/
  sshRefusedTimeout : Nat
  /-- How long rejected SSH credentials are retried. -/
  sshAuthTimeout : Nat
  sshRetryDelay : Nat
  /-- Whether a teardown leaves out draining. -/
  skipDrain : Bool
  deriving DecidableEq

namespace Settings

def standard : Settings where
  pingTimeout := 10000
  pingDelay := 500
  agentReadyTimeout := 600000
  agentReadyDelay := 500
  runningPollDelay := 1000
  sshRefusedTimeout := 600000
  sshAuthTimeout := 300000
  sshRetryDelay := 1000
  skipDrain := false

/-- A span is a whole number of milliseconds of at most 64 bits. -/
def span : Reader Nat := Reader.below UInt64.size

/-- Every setting that is left out has its standard value. -/
def read : Reader Settings := fun depth value => do
  let parts ← Parts.of? ["ping_timeout", "ping_delay", "agent_ready_timeout", "agent_ready_delay",
    "running_poll_delay", "ssh_connection_refused_timeout", "ssh_auth_failure_timeout",
    "ssh_retry_delay", "skip_drain"] depth value
  return {
    pingTimeout := ← parts.withDefault "ping_timeout" standard.pingTimeout span
    pingDelay := ← parts.withDefault "ping_delay" standard.pingDelay span
    agentReadyTimeout := ← parts.withDefault "agent_ready_timeout" standard.agentReadyTimeout span
    agentReadyDelay := ← parts.withDefault "agent_ready_delay" standard.agentReadyDelay span
    runningPollDelay := ← parts.withDefault "running_poll_delay" standard.runningPollDelay span
    sshRefusedTimeout :=
      ← parts.withDefault "ssh_connection_refused_timeout" standard.sshRefusedTimeout span
    sshAuthTimeout := ← parts.withDefault "ssh_auth_failure_timeout" standard.sshAuthTimeout span
    sshRetryDelay := ← parts.withDefault "ssh_retry_delay" standard.sshRetryDelay span
    skipDrain := ← parts.withDefault "skip_drain" standard.skipDrain Reader.bool }

end Settings

end Reconciler
