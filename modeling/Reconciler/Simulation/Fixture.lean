import Reconciler.Manifest.Basic

/-!
Small manifests and stemcells to try the engine with.
-/
namespace Reconciler.Fixture

/-- Properties that are all texts. -/
def properties (pairs : List (String × String)) : Properties :=
  Properties.ofMembers (pairs.map fun (name, text) => (name, .string text))

def diskPool (size : UInt64) : DiskPool where
  name := "fast"
  size := size
  cloudProperties := some (properties [("type", "ssd")])

/-- One job on a private network with a disk of 1024 MiB, which has three seconds to run. -/
def manifest : Manifest where
  name := "test-deployment"
  releases := [⟨"bosh", "255.3"⟩]
  jobs := [{
    name := "director"
    instances := 1
    resourcePool := "default"
    networks := ["private"]
    persistentDisk := 0
    persistentDiskPool := some "fast" }]
  diskPools := [diskPool 1024]
  resourcePools := [{
    name := "default"
    cloudProperties := properties [("instance_type", "m1.small")]
    env := [] }]
  networks := [{
    name := "private"
    type := "manual"
    ip := some "10.0.0.6"
    cloudProperties := [] }]
  update := ⟨⟨0, 3000⟩⟩

def stemcell (name version : String) : ExtractedStemcell where
  manifest := {
    name := name
    version := version
    imagePath := "/stemcell/image"
    cloudProperties := [] }
  path := "/tmp/extracted-stemcell"

end Reconciler.Fixture
