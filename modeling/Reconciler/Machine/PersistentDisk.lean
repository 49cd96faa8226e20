import Reconciler.Machine.Vm

/-!
Bringing the persistent disk of a machine to what a pool asks for. A new disk is attached and holds
the data before it becomes current, and the old one is detached and deleted only after that: at any
moment the current disk is one that holds the data.

Covers `DiskDeployer` (`deploy`, `deploy_existing_disk`, `deploy_new_disk`, `migrate_disk`,
`create_disk`, `attach_disk`, `update_current_disk_record`) and `update_disks` of `Vm`.
-/
namespace Reconciler.PersistentDisk

variable (vm : Vm) (stage : Stage)

def create (pool : DiskPool) : Engine DiskRecord :=
  Engine.runStep stage "Creating disk" (Disks.create pool vm.cid)

def attach (disk : DiskRecord) : Engine Unit :=
  Engine.runStep stage s!"Attaching disk '{disk.cid}' to VM '{vm.cid}'" (vm.attachDisk disk)

/-- Makes the first record with the disk's cid the current one. -/
def makeCurrent (disk : DiskRecord) : Engine Unit := do
  match ← within "Finding disk record" (Disks.find disk.cid) with
  | none => throw (.invalidState .newDiskNotRecorded)
  | some record => within "Updating current disk record" (Disks.setCurrent record.id)

/-- Moves to a new disk and deletes the old one. -/
def migrate (old : DiskRecord) (pool : DiskPool) : Engine DiskRecord := do
  let new ← create vm stage pool
  attach vm stage new
  Engine.runStep stage s!"Migrating disk content from '{old.cid}' to '{new.cid}'" Agent.migrateDisk
  makeCurrent new
  Engine.runStep stage s!"Detaching disk '{old.cid}'" (vm.detachDisk old)
  old.deleteInStep stage s!"Deleting disk '{old.cid}'"
  return new

/-- Keeps a disk that is what the pool asks for. Attaching it again does no harm. -/
def keepOrMigrate (disk : DiskRecord) (pool : DiskPool) : Engine DiskRecord := do
  attach vm stage disk
  if disk.needsMigration pool.size pool.cloudProperties then migrate vm stage disk pool
  else return disk

def createFirst (pool : DiskPool) : Engine DiskRecord := do
  let disk ← create vm stage pool
  attach vm stage disk
  makeCurrent disk
  return disk

/-- Makes the machine carry exactly one disk as the pool asks for it, and deletes every other
recorded disk. A pool of size zero changes nothing. -/
def converge (pool : DiskPool) : Engine (List DiskRecord) := do
  if pool.size = 0 then return []
  else
    let disk ← match ← within "Finding existing disk" Disks.findCurrent with
      | some disk => keepOrMigrate vm stage disk pool
      | none => createFirst vm stage pool
    Disks.deleteUnused stage
    return [disk]

end Reconciler.PersistentDisk

namespace Reconciler

def Vm.updateDisks (vm : Vm) (pool : DiskPool) (stage : Stage) : Engine (List DiskRecord) :=
  within "Deploying disk" (PersistentDisk.converge vm stage pool)

end Reconciler
