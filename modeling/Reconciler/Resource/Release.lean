import Reconciler.Resource.Deletion
import Reconciler.Workspace.Repository

/-!
Releases have nothing in the cloud; their records only say which of them a deployment runs.

Covers `ReleaseManager`: `find_current`, `record`, `find_unused`, `delete_unused`.
-/
namespace Reconciler.Releases

def findCurrent : Engine (List ReleaseRecord) :=
  within "Finding current release records" Releases.current

/-- The record of a release, which is made if there is none. -/
def recordOne (release : ReleaseRef) : Engine ReleaseRecord := do
  match ← within s!"Finding release record '{release.name}/{release.version}'"
      (Releases.find release.name release.version) with
  | some record => return record
  | none =>
    within s!"Saving release record '{release.name}/{release.version}'"
      (Releases.save release.name release.version)

def recordEach : List ReleaseRef → Engine (List ReleaseRecord)
  | [] => return []
  | release :: rest => do
    let record ← recordOne release
    let records ← recordEach rest
    return record :: records

/-- Records the releases, reusing records, and makes exactly these current. -/
def record (releases : List ReleaseRef) : Engine (List ReleaseRecord) := do
  let records ← recordEach releases
  within "Updating current release records" (Releases.setCurrent (records.map (·.id)))
  return records

/-- Every recorded release that is not current. -/
def findUnused : Engine (List ReleaseRecord) := do
  let all ← within "Getting all release records" Releases.all
  let current ← findCurrent
  return all.filter fun record => !current.any (·.id == record.id)

def deleteUnused (stage : Stage) : Engine Unit := do
  let unused ← findUnused
  forEach unused fun release => do
    let step := s!"Deleting unused release '{release.name}/{release.version}'"
    discard <| Engine.performStep stage step do
      within "Deleting release record" (Releases.delete release.id)
      return .finished

end Reconciler.Releases
