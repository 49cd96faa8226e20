import Reconciler.Instance.Lifecycle

/-!
The instances of a workspace: the one left by an earlier run, and a new one.

Covers `InstanceManager`: `find_current`, `create`, `delete_all`.
-/
namespace Reconciler.Instances

/-- The instance of the current machine, if there is one. The name of its job is not recorded. -/
def findCurrent (settings : Settings) : Engine (List Instance) := do
  let vm ← within "Finding currently deployed instances" Vms.findCurrent
  return vm.toList.map fun vm =>
    { jobName := "unknown", index := 0, vm := vm, settings := settings, phase := .running }

/-- Creates the machine, promotes the stemcell, waits for the agent and brings the disk in place.
Jobs are applied afterwards. -/
def create (settings : Settings) (jobName : String) (index : UInt32) (manifest : Manifest)
    (stemcell : StemcellRecord) (registry : RegistryConfig) (tunnel : SshTunnelConfig)
    (stage : Stage) : Engine (Instance × List DiskRecord) := do
  let vm ← Engine.runStep stage
      s!"Creating VM for instance '{jobName}/{index}' from stemcell '{stemcell.cid}'" do
    let vm ← within "Creating VM" (Vms.create stemcell manifest)
    within s!"Promoting stemcell as current '{stemcell.cid}'" stemcell.promote
    return vm
  let i : Instance :=
    { jobName := jobName, index := index, vm := vm, settings := settings, phase := .creating }
  let ((), i) ← within "Waiting until instance is ready"
    ((Instance.awaitReady registry tunnel stage).toEngine i)
  let (disks, i) ← within "Updating instance disks"
    ((Instance.updateDisks manifest stage).toEngine i)
  return (i, disks)

/-- Deletes every current instance. -/
def deleteAll (settings : Settings) (timeout delay : Nat) (skipDrain : Bool) (stage : Stage) :
    Engine Unit := do
  let instances ← findCurrent settings
  forEach instances fun i => do
    discard <| within s!"Deleting existing instance '{i.label}'"
      ((Instance.delete timeout delay skipDrain stage).toEngine i)

end Reconciler.Instances
