import Reconciler.Duration
import Reconciler.Engine
import Reconciler.Retry

/-!
The agent on the machine: what it can be told, and waiting for it, until it answers at all and until
its jobs run.

Covers `Vm` where it speaks to the agent (`start`, `stop`, `apply`, `drain`, `run_script`,
`get_state`, `disks`, `unmount_disk`, `migrate_disk`) and `AgentClient` (`wait_until_ready`,
`wait_to_be_running`).
-/
namespace Reconciler.Agent

def start : Engine Unit := within "Starting agent" (Engine.agent .start)

def stop : Engine Unit := within "Stopping agent" (Engine.agent .stop)

def apply (spec : Json) : Engine Unit :=
  within "Sending apply spec to agent" (Engine.agent (.apply spec))

def drain : Engine Unit := within "Draining jobs" (Engine.agent .drain)

def runScript (script : String) (options : Properties) : Engine Unit :=
  within s!"Sending run_script '{script}' to agent" (Engine.agent (.runScript script options))

def getState : Engine AgentState := within "Getting agent state" (Engine.agent .getState)

/-- The cids of the disks that are mounted. -/
def disks : Engine (List String) := within "Listing vm disks" (Engine.agent .listDisk)

def unmountDisk (cid : String) : Engine Unit := Engine.agent (.unmountDisk cid)

def migrateDisk : Engine Unit := Engine.agent .migrateDisk

/-- Pings until the agent answers or the time is over. -/
def awaitReady (timeout delay : Nat) : Engine Unit := ExceptT.mk do
  match ← TimeoutRetry.run ⟨timeout, delay⟩ (Engine.agent .ping).run fun _ => true with
  | .ok _ => return .ok ()
  | .error failure =>
    return .error (.timeout
      s!"agent did not respond within {durationText timeout}: {failure.text}")

/-- One look at the jobs, which fails unless they run. -/
def checkRunning : Engine Unit := do
  let state ← within "Sending get_state to agent" (Engine.agent .getState)
  if AgentState.isRunning state then return ()
  else throw (.agent s!"Received non-running job state: '{AgentState.jobState state}'")

/-- Looks at the jobs a number of times, until they run. -/
def awaitRunning (maxAttempts delay : Nat) : Engine Unit :=
  ExceptT.mk (AttemptRetry.run ⟨maxAttempts, delay⟩ checkRunning.run)

end Reconciler.Agent
