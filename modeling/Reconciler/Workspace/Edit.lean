import Reconciler.Failure
import Reconciler.Workspace.Document

/-!
Changes to the workspace document. Each touches one kind of record and its pointer; one that would
leave a pointer without its record, or two stemcells that cannot be told apart, is refused.

Covers the edits that `VmRepository`, `DiskRepository`, `StemcellRepository` and `ReleaseRepository`
make, apart from their loading and saving.
-/
namespace Reconciler.Document

def setCurrentVm (cid : String) (doc : Document) : Document := { doc with currentVmCid := cid }

def pointToDisk (id : String) (doc : Document) : Except StateFault Document :=
  if doc.disks.any (·.id == id) then .ok { doc with currentDiskId := id }
  else .error (.unknownDisk id)

def clearCurrentDisk (doc : Document) : Document := { doc with currentDiskId := "" }

def addDisk (record : DiskRecord) (doc : Document) : Document :=
  { doc with disks := doc.disks ++ [record] }

/-- Removes a disk record, and the pointer with it. -/
def removeDisk (id : String) (doc : Document) : Document :=
  { doc with
    disks := doc.disks.filter (·.id != id)
    currentDiskId := if doc.currentDiskId = id then "" else doc.currentDiskId }

def findDisk (cid : String) (doc : Document) : Option DiskRecord := doc.disks.find? (·.cid == cid)

def pointToStemcell (id : String) (doc : Document) : Except StateFault Document :=
  if doc.stemcells.any (·.id == id) then .ok { doc with currentStemcellId := id }
  else .error (.unknownStemcell id)

def clearCurrentStemcell (doc : Document) : Document := { doc with currentStemcellId := "" }

/-- The first record, in stored order, that a new stemcell would collide with. A record that has
both its name and version and its cid counts for the name and version. -/
def stemcellCollision (name version cid : String) (doc : Document) : Option StateFault :=
  doc.stemcells.findSome? fun existing =>
    if existing.name = name ∧ existing.version = version then
      some (.sameStemcell name version existing.id)
    else if existing.cid = cid then some (.sameStemcellCid name version cid existing.id)
    else none

def addStemcell (record : StemcellRecord) (doc : Document) : Document :=
  { doc with stemcells := doc.stemcells ++ [record] }

/-- Removes a stemcell record, and the pointer with it. -/
def removeStemcell (id : String) (doc : Document) : Document :=
  { doc with
    stemcells := doc.stemcells.filter (·.id != id)
    currentStemcellId := if doc.currentStemcellId = id then "" else doc.currentStemcellId }

def findStemcell (name version : String) (doc : Document) : Option StemcellRecord :=
  doc.stemcells.find? fun record => record.name == name && record.version == version

/-- Makes exactly these releases current; the first id without a record is refused. -/
def pointToReleases (ids : List String) (doc : Document) : Except StateFault Document :=
  match ids.find? fun id => !doc.releases.any (·.id == id) with
  | some id => .error (.unknownRelease id)
  | none => .ok { doc with currentReleaseIds := ids }

def clearCurrentReleases (doc : Document) : Document := { doc with currentReleaseIds := [] }

def addRelease (record : ReleaseRecord) (doc : Document) : Document :=
  { doc with releases := doc.releases ++ [record] }

/-- Removes a release record and drops it from the current ones. -/
def removeRelease (id : String) (doc : Document) : Document :=
  { doc with
    releases := doc.releases.filter (·.id != id)
    currentReleaseIds := doc.currentReleaseIds.filter (· != id) }

def findRelease (name version : String) (doc : Document) : Option ReleaseRecord :=
  doc.releases.find? fun record => record.name == name && record.version == version

end Reconciler.Document
