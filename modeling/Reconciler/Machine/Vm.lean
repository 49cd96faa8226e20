import Reconciler.Machine.Agent
import Reconciler.Resource.Disk
import Reconciler.Resource.Stemcell

/-!
One machine: its place in the cloud and the agent that runs on it.

Covers `Vm` (`exists`, `attach_disk`, `detach_disk`, `delete`) and `VmManager` (`find_current`,
`create`).
-/
namespace Reconciler

structure Vm where
  cid : String
  deriving DecidableEq

namespace Vm

def isPresent (vm : Vm) : Engine Bool :=
  within s!"Checking existance of VM '{vm.cid}'" (Engine.cloud (.hasVm vm.cid))

/-- Attaches in the cloud and has the agent mount the disk. -/
def attachDisk (vm : Vm) (disk : DiskRecord) : Engine Unit := do
  within "Attaching disk in the cloud" (Engine.cloud (.attachDisk vm.cid disk.cid))
  within "Mounting disk" (Engine.agent (.mountDisk disk.cid))

def detachDisk (vm : Vm) (disk : DiskRecord) : Engine Unit :=
  within "Detaching disk in the cloud" (Engine.cloud (.detachDisk vm.cid disk.cid))

/-- Deletes the machine and forgets it, and that its stemcell is in use. -/
def delete (vm : Vm) : Engine Unit :=
  deleteThenForget (Engine.tryCloud (.deleteVm vm.cid)) .vmNotFound "Deleting vm in the cloud" do
    within "Deleting vm from vm repo" Vms.clearCurrent
    within "Clearing current stemcell from stemcell repo" Stemcells.clearCurrent

end Vm

namespace Vms

def findCurrent : Engine (Option Vm) := do
  let cid ← within "Finding currently deployed vm" Vms.current
  return cid.map Vm.mk

/-- What the cloud is told about a machine for its own records. -/
def metadata (manifest : Manifest) (jobName : String) : List (String × String) :=
  [("deployment", manifest.name), ("director", "vm-deploy-rs"), ("index", "0"), ("job", jobName),
    ("name", jobName ++ "/0")]

/-- Creates the machine for the manifest's job. It is recorded before anything else can fail, so
that it is never lost. A cloud without metadata is fine. -/
def create (stemcell : StemcellRecord) (manifest : Manifest) : Engine Vm := do
  let jobName := manifest.jobName
  let networks ← within "Getting network spec"
    (Engine.valid (manifest.networkInterfaces jobName))
  let pool ← within s!"Getting resource pool for job '{jobName}'"
    (Engine.valid (manifest.resourcePool jobName))
  let disk ← within "Finding current disk" Disks.current
  let agentId ← Engine.freshId
  let cid : String ← within s!"Creating vm with stemcell cid '{stemcell.cid}'"
    (Engine.cloud (.createVm agentId stemcell.cid pool.cloudProperties
      (disk.toList.map (·.cid)) networks pool.env))
  within "Updating current vm record" (Vms.setCurrent cid)
  match ← (Engine.tryCloud (.setVmMetadata cid (metadata manifest jobName)) :
      Program Effects (Except CloudError Unit)) with
  | .ok () => return ⟨cid⟩
  | .error error =>
    if error.kind = .notImplemented then return ⟨cid⟩
    else throw (.within s!"Setting VM metadata on '{cid}'" (.cloud error))

end Vms

end Reconciler
