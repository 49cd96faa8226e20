import Reconciler.Proofs.Convergence
import Reconciler.Proofs.Plans

/-!
The plan by which a machine gets its persistent disk. The records and what the pool asks for settle
it, but for the cid of a disk that is created on the way, which is up to the cloud.
-/
namespace Reconciler

open Engine Repository

/-- The pool names properties, and the disk has them and the size that is asked for. -/
def DiskRecord.suits (disk : DiskRecord) (pool : DiskPool) : Bool :=
  pool.cloudProperties.any fun wanted =>
    disk.size == pool.size && Json.sameMembers disk.cloudProperties wanted

/-- What is recorded and not current. -/
def Shelf.unused {ρ : Type} [Recorded ρ] (d : Shelf ρ) : List ρ :=
  d.records.filter fun record =>
    d.current.all fun now => Recorded.recordId now != Recorded.recordId record

namespace DiskPlan

variable (vm : Vm) (pool : DiskPool)

def attaching (cid : String) : List Move :=
  [.cloud (.attachDisk vm.cid cid) (), .agent (.mountDisk cid) ()]

def creating (new : String) : List Move :=
  .cloud (.createDisk pool.size pool.propertiesOrEmpty vm.cid) new :: attaching vm new

/-- The data moves from a disk to one that was created, and the disk goes. -/
def migrating (old new : String) : List Move :=
  creating vm pool new ++
    [.agent .migrateDisk (), .cloud (.detachDisk vm.cid old) (), .delete (.deleteDisk old)]

/-- A disk that suits the pool is only attached once more. -/
def placing (new : String) : Option DiskRecord → List Move
  | none => creating vm pool new
  | some disk =>
    attaching vm disk.cid ++ if disk.suits pool then [] else migrating vm pool disk.cid new

def sweeping (unused : List DiskRecord) : List Move :=
  unused.map fun disk => .delete (.deleteDisk disk.cid)

/-- The disk is put in place, and then all others go in the order of their records. -/
def moves (d : Shelf DiskRecord) (new : String) : List Move :=
  placing vm pool new d.current ++ sweeping d.unused

end DiskPlan

namespace Shelf

variable {ρ : Type} [Recorded ρ] {d : Shelf ρ}

namespace Regular

variable {ids : Finset String} {before : List ρ} {record last : ρ}

end Regular

end Shelf

open DiskPlan

variable {c : Conduct} {s t : Surroundings} {vm : Vm} {stage : Stage} {pool : DiskPool}
  {disk : DiskRecord}

namespace PersistentDisk

end PersistentDisk

end Reconciler
