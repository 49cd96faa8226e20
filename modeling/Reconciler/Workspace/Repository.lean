import Reconciler.Engine
import Reconciler.Workspace.Edit

/-!
The records of a workspace, by kind. Every call loads the document once; one that changes something
saves it once, and nothing is saved when the change is refused.

Covers `VmRepository`, `DiskRepository`, `StemcellRepository` and `ReleaseRepository`, and `update`,
which all their changes go through.
-/
namespace Reconciler

namespace Repository

/-- The document as it is. -/
def look : Engine Document := within "Loading existing config" Engine.load

/-- Loads the document, changes it and saves it. -/
def change {α : Type} (edit : Document → Engine (α × Document)) : Engine α := do
  let doc ← look
  let (result, doc) ← edit doc
  within "Saving new config" (Engine.save doc)
  return result

/-- A change that always succeeds. -/
def update (edit : Document → Document) : Engine Unit := change fun doc => return ((), edit doc)

/-- A change that may be refused. -/
def tryUpdate (edit : Document → Except StateFault Document) : Engine Unit :=
  change fun doc => do return ((), ← Engine.consistent (edit doc))

end Repository

open Repository

namespace Vms

/-- The cid of the machine that is deployed. -/
def current : Engine (Option String) := do
  let doc ← look
  return if doc.currentVmCid.isEmpty then none else some doc.currentVmCid

def setCurrent (cid : String) : Engine Unit := update (Document.setCurrentVm cid)

def clearCurrent : Engine Unit := update (Document.setCurrentVm "")

end Vms

namespace Disks

def current : Engine (Option DiskRecord) := do return (← look).currentDisk

def setCurrent (id : String) : Engine Unit := tryUpdate (Document.pointToDisk id)

def clearCurrent : Engine Unit := update Document.clearCurrentDisk

/-- Records a disk under a fresh id. Two records may have one cid. -/
def save (cid : String) (size : UInt64) (properties : Properties) : Engine DiskRecord :=
  change fun doc => do
    let record := ⟨← Engine.freshId, cid, size, properties⟩
    return (record, doc.addDisk record)

def find (cid : String) : Engine (Option DiskRecord) := do return (← look).findDisk cid

def all : Engine (List DiskRecord) := do return (← look).disks

def delete (id : String) : Engine Unit := update (Document.removeDisk id)

end Disks

namespace Stemcells

def current : Engine (Option StemcellRecord) := do return (← look).currentStemcell

def setCurrent (id : String) : Engine Unit := tryUpdate (Document.pointToStemcell id)

def clearCurrent : Engine Unit := update Document.clearCurrentStemcell

/-- Records a stemcell under a fresh id, unless it collides with a recorded one. -/
def save (name version cid : String) : Engine StemcellRecord :=
  change fun doc => do
    match doc.stemcellCollision name version cid with
    | some fault => throw (.invalidState fault)
    | none =>
      let record := ⟨← Engine.freshId, name, version, cid⟩
      return (record, doc.addStemcell record)

def find (name version : String) : Engine (Option StemcellRecord) := do
  return (← look).findStemcell name version

def all : Engine (List StemcellRecord) := do return (← look).stemcells

def delete (id : String) : Engine Unit := update (Document.removeStemcell id)

end Stemcells

namespace Releases

/-- The records of the releases that are deployed, in stored order. -/
def current : Engine (List ReleaseRecord) := do return (← look).currentReleases

def setCurrent (ids : List String) : Engine Unit := tryUpdate (Document.pointToReleases ids)

def clearCurrent : Engine Unit := update Document.clearCurrentReleases

/-- Records a release under a fresh id. -/
def save (name version : String) : Engine ReleaseRecord :=
  change fun doc => do
    let record := ⟨← Engine.freshId, name, version⟩
    return (record, doc.addRelease record)

def find (name version : String) : Engine (Option ReleaseRecord) := do
  return (← look).findRelease name version

def all : Engine (List ReleaseRecord) := do return (← look).releases

def delete (id : String) : Engine Unit := update (Document.removeRelease id)

end Releases

end Reconciler
