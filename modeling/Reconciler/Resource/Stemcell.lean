import Reconciler.Resource.Deletion
import Reconciler.Workspace.Repository

/-!
Stemcells: each is uploaded once, promoted when a machine was made from it, and deleted when it is
not the current one.

Covers `CloudStemcell` (`promote_as_current`, `delete`) and `StemcellManager` (`find_current`,
`upload`, `find_unused`, `delete_unused`).
-/
namespace Reconciler

namespace StemcellRecord

/-- Makes the recorded stemcell of this name and version the current one. -/
def promote (stemcell : StemcellRecord) : Engine Unit := do
  match ← within "Finding current stemcell" (Stemcells.find stemcell.name stemcell.version) with
  | none =>
    throw (.invalidState
      (.stemcellNotRecorded stemcell.cid stemcell.name stemcell.version))
  | some found =>
    within "Updating current stemcell record" (Stemcells.setCurrent found.id)

def delete (stemcell : StemcellRecord) : Engine Unit :=
  deleteThenForget (Engine.tryCloud (.deleteStemcell stemcell.cid)) .stemcellNotFound
    s!"Deleting stemcell '{stemcell.cid}' in the cloud"
    (within "Deleting stemcell from stemcell repo" (Stemcells.delete stemcell.id))

/-- Deletes as a step of a stage, which is skipped when the cloud no longer has the stemcell. -/
def deleteInStep (stage : Stage) (step : String) (stemcell : StemcellRecord) : Engine Unit := do
  discard <| Engine.performStep stage step
    (skipIfGone .stemcellNotFound Failure.text stemcell.delete)

end StemcellRecord

namespace Stemcells

def findCurrent : Engine (Option StemcellRecord) :=
  within "Reading stemcell record" Stemcells.current

/-- Uploads a stemcell unless its name and version are recorded already. -/
def upload (extracted : ExtractedStemcell) (stage : Stage) : Engine StemcellRecord := do
  let manifest := extracted.manifest
  let (record, _) ← stage.step "Uploading" Prod.snd do
    match ← within "Finding existing stemcell record in repo"
        (Stemcells.find manifest.name manifest.version) with
    | some record => return (record, Outcome.skipped "Stemcell already uploaded")
    | none =>
      let cid : String ← within s!"creating stemcell ({manifest.name} {manifest.version})"
        (Engine.cloud (.createStemcell manifest.imagePath manifest.cloudProperties))
      let record ← within s!"saving stemcell record in repo (cid={cid}, stemcell={extracted.text})"
        (Stemcells.save manifest.name manifest.version cid)
      return (record, Outcome.finished)
  return record

/-- Every recorded stemcell except the current one. -/
def findUnused : Engine (List StemcellRecord) := do
  let records ← within "Getting all stemcell records" Stemcells.all
  let current ← within "Finding current stemcell record" Stemcells.current
  return records.filter fun record => current.all (·.id != record.id)

def deleteUnused (stage : Stage) : Engine Unit := do
  let unused ← within "Finding unused stemcells" findUnused
  forEach unused fun stemcell =>
    stemcell.deleteInStep stage s!"Deleting unused stemcell '{stemcell.cid}'"

end Stemcells

end Reconciler
