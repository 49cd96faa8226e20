import Reconciler.Machine.PersistentDisk
import Reconciler.Tunnel.Basic

/-!
The life of an instance: the one job of a deployment on its machine. What lasts is in the workspace
document; an instance itself only knows how far the present run has taken it.

Covers `Instance`: `disks`, `wait_until_ready`, `update_disks`, `update_jobs`, `delete`, `stop` and
`start`, with the parts they share (`shutdown`, `wait_for_agent`, `wait_until_jobs_are_running`,
`run_script_in_step`, `unmount_disks`, `watch_attempts`).
-/
namespace Reconciler

structure Instance where
  jobName : String
  index : UInt32
  vm : Vm
  settings : Settings
  phase : Phase

namespace Instance

/-- The job and the number, as they stand in texts. -/
def label (i : Instance) : String := s!"{i.jobName}/{i.index}"

def enter (phase : Phase) : Stateful Instance Unit := modify fun i => { i with phase := phase }

/-- Polls that fit between `start` and `finish` at one for each delay, as a 32-bit number. -/
def watchAttempts (start finish delay : Nat) : Nat :=
  min ((finish - start) / max delay 1) (UInt32.size - 1)

section Steps

variable (i : Instance) (stage : Stage)

def disks : Engine (List String) := within "Listing instance disks" Agent.disks

def runScriptInStep (script : String) : Engine Unit :=
  Engine.runStep stage s!"Running the {script} scripts '{i.label}'"
    (within s!"Running the {script} script" (Agent.runScript script []))

def awaitAgent (timeout delay : Nat) : Engine Unit :=
  Engine.runStep stage s!"Waiting for the agent on VM '{i.vm.cid}'"
    (within "Agent unreachable" (Agent.awaitReady timeout delay))

def awaitRunningJobs (watch : WatchTime) : Engine Unit :=
  let delay := i.settings.runningPollDelay
  Engine.runStep stage s!"Waiting for instance '{i.label}' to be running" do
    Engine.sleep watch.start.toNat
    Agent.awaitRunning (watchAttempts watch.start.toNat watch.finish.toNat delay) delay

def unmountDisks : Engine Unit := do
  let disks ← within s!"Getting VM '{i.vm.cid}' disks" Agent.disks
  forEach disks fun cid =>
    Engine.runStep stage s!"Unmounting disk '{cid}'"
      (within s!"Unmounting disk '{cid}' from VM '{i.vm.cid}'" (Agent.unmountDisk cid))

/-- Waits for a new agent. When there is a registry and a way to reach the machine, a tunnel is open
for as long as the wait takes, and is stopped however the wait ends. -/
def awaitNewAgent (registry : RegistryConfig) (tunnel : SshTunnelConfig) : Engine Unit :=
  let wait := Agent.awaitReady i.settings.agentReadyTimeout i.settings.agentReadyDelay
  if registry.isEmpty || tunnel.isEmpty then wait
  else ExceptT.mk do
    let (started, tunnel) ←
      Tunnel.start.runOn (Tunnel.new i.settings (.forRegistry tunnel registry))
    match started with
    | .error failure => return .error (.within "Starting SSH tunnel" failure)
    | .ok () =>
      let result ← wait.run
      discard <| Tunnel.stop.runOn tunnel
      return result

end Steps

/-- Waits for the agent of a new machine. -/
def awaitReady (registry : RegistryConfig) (tunnel : SshTunnelConfig) (stage : Stage) :
    Stateful Instance Unit := do
  enter .waitingForAgent
  let i ← get
  Engine.runStep stage s!"Waiting for the agent on VM '{i.vm.cid}' to be ready"
    (i.awaitNewAgent registry tunnel)

def updateDisks (manifest : Manifest) (stage : Stage) : Stateful Instance (List DiskRecord) := do
  let i ← get
  let pool ← within "Getting disk pool" (Engine.valid (manifest.diskPool i.jobName))
  let disks ← within "Updating disks" (i.vm.updateDisks pool stage)
  enter .disksUpdated
  return disks

/-- Applies the jobs and waits until they run. A first spec lets the agent bring up its networks;
the full one is made from what it reports then. -/
def updateJobs (manifest : Manifest) (stage : Stage) : Stateful Instance Unit := do
  let i ← get
  let initial ← within s!"Building initial state for instance '{i.label}'"
    (Engine.render (.initial i.jobName i.index manifest))
  within "Applying the initial agent state" (Agent.apply initial)
  let resolved ← within s!"Getting state for instance '{i.label}'" Agent.getState
  let spec ← within s!"Building state for instance '{i.label}'"
    (Engine.render (.final i.jobName i.index manifest resolved))
  Engine.runStep stage s!"Updating instance '{i.label}'" do
    within "Stopping the agent" Agent.stop
    within "Applying the agent state" (Agent.apply spec)
    within "Running the pre-start script" (Agent.runScript "pre-start" [])
    within "Starting the agent" Agent.start
  i.awaitRunningJobs stage manifest.update.watchTime
  i.runScriptInStep stage "post-start"
  enter .running

/-- Whether the agent answered. That it did not is no failure here. -/
def agentAnswers (timeout delay : Nat) (stage : Stage) : Stateful Instance Bool := do
  let i ← get
  match ← ((i.awaitAgent stage timeout delay).run : Program Effects (Except Failure Unit)) with
  | .ok () => return true
  | .error _ => return false

/-- Stops the jobs. When the agent does not answer there is nothing to stop. -/
def shutDown (timeout delay : Nat) (skipDrain skipUnmount : Bool) (stage : Stage) :
    Stateful Instance Unit := do
  if ← agentAnswers timeout delay stage then
    let i ← get
    i.runScriptInStep stage "pre-stop"
    unless skipDrain do
      Engine.runStep stage s!"Draining jobs on instance '{i.label}'" Agent.drain
    Engine.runStep stage s!"Stopping jobs on instance '{i.label}'" Agent.stop
    enter .stopped
    i.runScriptInStep stage "post-stop"
    unless skipUnmount do
      i.unmountDisks stage

/-- Takes the instance down and deletes its machine. A machine that the cloud no longer knows is
deleted all the same, so that the cloud can let go of what belongs to it; the step is skipped. -/
def delete (timeout delay : Nat) (skipDrain : Bool) (stage : Stage) : Stateful Instance Unit := do
  let i ← get
  let isPresent ← within s!"Checking existence of vm for instance '{i.label}'" i.vm.isPresent
  if isPresent then shutDown timeout delay skipDrain false stage
  discard <| Engine.performStep stage s!"Deleting VM '{i.vm.cid}'"
    (skipIfGone .vmNotFound (fun _ => "VM not found") i.vm.delete)
  enter .deleted

/-- Stops the jobs and leaves the disks mounted. -/
def stop (timeout delay : Nat) (skipDrain : Bool) (stage : Stage) : Stateful Instance Unit :=
  shutDown timeout delay skipDrain true stage

/-- Starts the jobs on a machine that is there and waits until they run. -/
def start (update : Update) (timeout delay : Nat) (stage : Stage) : Stateful Instance Unit := do
  if ← agentAnswers timeout delay stage then
    let i ← get
    i.runScriptInStep stage "pre-start"
    Engine.runStep stage s!"Starting the agent '{i.label}'"
      (within "Starting the agent" Agent.start)
    i.awaitRunningJobs stage update.watchTime
    i.runScriptInStep stage "post-start"
    enter .running

end Instance

end Reconciler
