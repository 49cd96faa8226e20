import Reconciler.Instance.Creation
import Reconciler.Resource.Release

/-!
What is deployed right now, and taking it down. Deleting works through the value in hand: whatever
was taken up is dropped from it, whether or not its deletion succeeded.

Covers `Deployment` (`is_empty`, `delete`) and `DeploymentManager` (`find_current`, `cleanup`).
-/
namespace Reconciler

structure Deployment where
  instances : List Instance
  disks : List DiskRecord
  stemcells : List StemcellRecord
  settings : Settings

namespace Deployment

def isEmpty (deployment : Deployment) : Bool :=
  deployment.instances.isEmpty && deployment.disks.isEmpty && deployment.stemcells.isEmpty

/-- Deletes the instances, the last one first. -/
def deleteInstances (stage : Stage) : Nat → Stateful Deployment Unit
  | 0 => return ()
  | left + 1 => do
    let deployment ← get
    match deployment.instances.getLast? with
    | none => return ()
    | some i =>
      modify fun d => { d with instances := d.instances.dropLast }
      let settings := deployment.settings
      discard <| (within s!"Deleting instance '{i.label}'"
        ((Instance.delete settings.pingTimeout settings.pingDelay settings.skipDrain stage).toEngine
          i) : Engine (Unit × Instance))
      deleteInstances stage left

/-- Deletes the disks, the last one first. -/
def deleteDisks (stage : Stage) : Nat → Stateful Deployment Unit
  | 0 => return ()
  | left + 1 => do
    match (← get).disks.getLast? with
    | none => return ()
    | some disk =>
      modify fun d => { d with disks := d.disks.dropLast }
      (disk.deleteInStep stage s!"Deleting disk '{disk.cid}'" : Engine Unit)
      deleteDisks stage left

/-- Deletes the stemcells, the last one first. -/
def deleteStemcells (stage : Stage) : Nat → Stateful Deployment Unit
  | 0 => return ()
  | left + 1 => do
    match (← get).stemcells.getLast? with
    | none => return ()
    | some stemcell =>
      modify fun d => { d with stemcells := d.stemcells.dropLast }
      (stemcell.deleteInStep stage s!"Deleting stemcell '{stemcell.cid}'" : Engine Unit)
      deleteStemcells stage left

/-- Deletes instances, then disks, then stemcells. Resources that are gone already are skipped. -/
def delete (stage : Stage) : Stateful Deployment Unit := do
  deleteInstances stage (← get).instances.length
  deleteDisks stage (← get).disks.length
  deleteStemcells stage (← get).stemcells.length

/-- What is current in the workspace, unless that is nothing. -/
def findCurrent (settings : Settings) : Engine (Option Deployment) := do
  let instances ← within "Finding current deployment instances" (Instances.findCurrent settings)
  let disk ← within "Finding current deployment disks" Disks.findCurrent
  let stemcell ← within "Finding current deployment stemcells" Stemcells.findCurrent
  let deployment : Deployment :=
    { instances := instances, disks := disk.toList, stemcells := stemcell.toList,
      settings := settings }
  return if deployment.isEmpty then none else some deployment

/-- Deletes the disks, stemcells and release records that nothing uses. -/
def cleanUp (stage : Stage) : Engine Unit := do
  within "Deleting unused disks" (Disks.deleteUnused stage)
  within "Deleting unused stemcells" (Stemcells.deleteUnused stage)
  within "Deleting unused releases" (Releases.deleteUnused stage)

end Deployment

end Reconciler
