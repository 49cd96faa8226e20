import Reconciler.Json.Reading

/-!
The workspace document: all that is known about what a deployment has in the cloud. It is read and
written as a whole. Records are told apart by their id; the pointers to the current machine, disk
and stemcell are empty when there is none.

Covers `DeploymentFile` (`is_empty`, `current_disk`, `current_stemcell`), `DiskRecord`,
`StemcellRecord` and `ReleaseRecord`.
-/
namespace Reconciler

structure DiskRecord where
  id : String
  cid : String
  /-- In MiB. -/
  size : UInt64
  cloudProperties : Properties

structure StemcellRecord where
  id : String
  name : String
  version : String
  cid : String
  deriving DecidableEq

structure ReleaseRecord where
  id : String
  name : String
  version : String
  deriving DecidableEq

structure Document where
  /-- Given once, when the workspace is first looked at. -/
  directorId : String
  currentVmCid : String
  currentStemcellId : String
  currentDiskId : String
  currentReleaseIds : List String
  disks : List DiskRecord
  stemcells : List StemcellRecord
  releases : List ReleaseRecord

namespace DiskRecord

def toJson (record : DiskRecord) : Json :=
  .object [("id", record.id), ("cid", record.cid), ("size", record.size),
    ("cloud_properties", .object record.cloudProperties)]

def read : Reader DiskRecord := fun depth value => do
  let parts ← Parts.of? ["id", "cid", "size", "cloud_properties"] depth value
  return {
    id := ← parts.required "id" Reader.string
    cid := ← parts.required "cid" Reader.string
    size := ← parts.required "size" Reader.uint64
    cloudProperties := ← parts.withDefault "cloud_properties" [] Reader.properties }

end DiskRecord

namespace StemcellRecord

def toJson (record : StemcellRecord) : Json :=
  .object [("id", record.id), ("name", record.name), ("version", record.version),
    ("cid", record.cid)]

def read : Reader StemcellRecord := fun depth value => do
  let parts ← Parts.of? ["id", "name", "version", "cid"] depth value
  return {
    id := ← parts.required "id" Reader.string
    name := ← parts.required "name" Reader.string
    version := ← parts.required "version" Reader.string
    cid := ← parts.required "cid" Reader.string }

end StemcellRecord

namespace ReleaseRecord

def toJson (record : ReleaseRecord) : Json :=
  .object [("id", record.id), ("name", record.name), ("version", record.version)]

def read : Reader ReleaseRecord := fun depth value => do
  let parts ← Parts.of? ["id", "name", "version"] depth value
  return {
    id := ← parts.required "id" Reader.string
    name := ← parts.required "name" Reader.string
    version := ← parts.required "version" Reader.string }

end ReleaseRecord

namespace Document

/-- The document of a workspace in which nothing was ever deployed. -/
def fresh (directorId : String) : Document where
  directorId := directorId
  currentVmCid := ""
  currentStemcellId := ""
  currentDiskId := ""
  currentReleaseIds := []
  disks := []
  stemcells := []
  releases := []

/-- Nothing is deployed and nothing is left behind. Releases are not resources. -/
def isEmpty (doc : Document) : Bool :=
  doc.currentVmCid.isEmpty && doc.currentStemcellId.isEmpty && doc.currentDiskId.isEmpty &&
    doc.disks.isEmpty && doc.stemcells.isEmpty

def currentDisk (doc : Document) : Option DiskRecord :=
  if doc.currentDiskId.isEmpty then none else doc.disks.find? (·.id == doc.currentDiskId)

def currentStemcell (doc : Document) : Option StemcellRecord :=
  if doc.currentStemcellId.isEmpty then none
  else doc.stemcells.find? (·.id == doc.currentStemcellId)

def currentReleases (doc : Document) : List ReleaseRecord :=
  doc.releases.filter fun release => doc.currentReleaseIds.contains release.id

def toJson (doc : Document) : Json :=
  .object [("director_id", doc.directorId), ("current_vm_cid", doc.currentVmCid),
    ("current_stemcell_id", doc.currentStemcellId), ("current_disk_id", doc.currentDiskId),
    ("current_release_ids", Json.strings doc.currentReleaseIds),
    ("disks", .array (doc.disks.map DiskRecord.toJson)),
    ("stemcells", .array (doc.stemcells.map StemcellRecord.toJson)),
    ("releases", .array (doc.releases.map ReleaseRecord.toJson))]

def read : Reader Document := fun depth value => do
  let parts ← Parts.of? ["director_id", "current_vm_cid", "current_stemcell_id",
    "current_disk_id", "current_release_ids", "disks", "stemcells", "releases"] depth value
  return {
    directorId := ← parts.withDefault "director_id" "" Reader.string
    currentVmCid := ← parts.withDefault "current_vm_cid" "" Reader.string
    currentStemcellId := ← parts.withDefault "current_stemcell_id" "" Reader.string
    currentDiskId := ← parts.withDefault "current_disk_id" "" Reader.string
    currentReleaseIds := ← parts.withDefault "current_release_ids" [] Reader.string.list
    disks := ← parts.withDefault "disks" [] (Reader.list DiskRecord.read)
    stemcells := ← parts.withDefault "stemcells" [] (Reader.list StemcellRecord.read)
    releases := ← parts.withDefault "releases" [] (Reader.list ReleaseRecord.read) }

end Document

end Reconciler
