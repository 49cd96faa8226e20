import Reconciler.Manifest.Resolution
import Reconciler.Resource.Deletion
import Reconciler.Workspace.Repository

/-!
Persistent disks: a disk in the cloud and its record.

Covers `Disk` (`needs_migration`, `delete`) and `DiskManager` (`create`, `find_current`,
`find_unused`, `delete_unused`).
-/
namespace Reconciler

namespace DiskRecord

/-- Whether a disk of this size with these properties would differ from this one. Absent properties
always count as a difference. -/
def needsMigration (disk : DiskRecord) (size : UInt64) : Option Properties → Bool
  | none => true
  | some properties =>
    disk.size != size || !Json.sameMembers disk.cloudProperties properties

/-- Deletes the disk, and the first record that has its cid. -/
def delete (disk : DiskRecord) : Engine Unit :=
  deleteThenForget (Engine.tryCloud (.deleteDisk disk.cid)) .diskNotFound
    s!"Deleting disk '{disk.cid}' in the cloud" do
      match ← within "Finding disk record" (Disks.find disk.cid) with
      | none => return ()
      | some record => within "Deleting disk record" (Disks.delete record.id)

/-- Deletes as a step of a stage, which is skipped when the cloud no longer has the disk. -/
def deleteInStep (stage : Stage) (step : String) (disk : DiskRecord) : Engine Unit := do
  discard <| Engine.performStep stage step (skipIfGone .diskNotFound Failure.text disk.delete)

end DiskRecord

namespace Disks

/-- Creates a disk for a machine and records it. It is not current yet. -/
def create (pool : DiskPool) (vmCid : String) : Engine DiskRecord := do
  let properties := pool.propertiesOrEmpty
  let cid ← within s!"Creating {pool.size}MB disk with vm cid '{vmCid}'"
    (Engine.cloud (.createDisk pool.size properties vmCid))
  within "Saving disk record" (Disks.save cid pool.size properties)

def findCurrent : Engine (Option DiskRecord) := within "Reading disk record" Disks.current

/-- Every recorded disk except the current one. -/
def findUnused : Engine (List DiskRecord) := do
  let records ← within "Getting all disk records" Disks.all
  let current ← within "Finding current disk record" Disks.current
  return records.filter fun record => current.all (·.id != record.id)

def deleteUnused (stage : Stage) : Engine Unit := do
  let unused ← within "Finding unused disks" findUnused
  forEach unused fun disk => disk.deleteInStep stage s!"Deleting unused disk '{disk.cid}'"

end Disks

end Reconciler
