import Reconciler.Json.Reading

/-!
The deployment manifest: what should run, and what the cloud has to provide for it. Every part is
read from and written to JSON; written records have all their fields, in the order given here.

Covers `Manifest` and the types in it, `SshTunnelConfig`, `RegistryConfig`, `StemcellManifest` and
`ExtractedStemcell`.
-/
namespace Reconciler

/-- A persistent disk that a job may ask for. -/
structure DiskPool where
  name : String
  /-- In MiB; zero means no persistent disk. -/
  size : UInt64
  cloudProperties : Option Properties

/-- The shape of the machines of a job. -/
structure ResourcePool where
  name : String
  cloudProperties : Properties
  env : Properties

structure Network where
  name : String
  type : String
  ip : Option String
  cloudProperties : Properties

structure Job where
  name : String
  instances : UInt32
  resourcePool : String
  networks : List String
  /-- Size in MiB of a disk of its own, used when no pool is named. -/
  persistentDisk : UInt64
  persistentDiskPool : Option String

/-- The span, in milliseconds, in which an updated instance has to report that it runs. -/
structure WatchTime where
  start : UInt64
  finish : UInt64
  deriving DecidableEq

def WatchTime.none : WatchTime := ⟨0, 0⟩

structure Update where
  watchTime : WatchTime
  deriving DecidableEq

def Update.none : Update := ⟨.none⟩

structure ReleaseRef where
  name : String
  version : String
  deriving DecidableEq

structure Manifest where
  name : String
  releases : List ReleaseRef
  jobs : List Job
  diskPools : List DiskPool
  resourcePools : List ResourcePool
  networks : List Network
  update : Update

/-- How to reach a machine on a private network. -/
structure SshTunnelConfig where
  host : String
  port : UInt16
  user : String
  password : String
  privateKey : String
  deriving DecidableEq

def SshTunnelConfig.empty : SshTunnelConfig := ⟨"", 0, "", "", ""⟩

def SshTunnelConfig.isEmpty (config : SshTunnelConfig) : Bool := config == .empty

/-- Where an agent reads its settings while its machine starts. -/
structure RegistryConfig where
  username : String
  password : String
  host : String
  port : UInt16
  deriving DecidableEq

def RegistryConfig.empty : RegistryConfig := ⟨"", "", "", 0⟩

def RegistryConfig.isEmpty (config : RegistryConfig) : Bool := config == .empty

/-- What an unpacked stemcell says about itself. -/
structure StemcellManifest where
  name : String
  version : String
  imagePath : String
  cloudProperties : Properties

/-- A stemcell unpacked on the local disk, ready to upload. -/
structure ExtractedStemcell where
  manifest : StemcellManifest
  path : String

def ExtractedStemcell.text (stemcell : ExtractedStemcell) : String :=
  "ExtractedStemcell\x7bname=" ++ stemcell.manifest.name ++ " version=" ++
    stemcell.manifest.version ++ " path=" ++ stemcell.path ++ "\x7d"

namespace DiskPool

def toJson (pool : DiskPool) : Json :=
  .object [("name", pool.name), ("disk_size", pool.size),
    ("cloud_properties", Json.ofOption .object pool.cloudProperties)]

def read : Reader DiskPool := fun depth value => do
  let parts ← Parts.of? ["name", "disk_size", "cloud_properties"] depth value
  return {
    name := ← parts.required "name" Reader.string
    size := ← parts.required "disk_size" Reader.uint64
    cloudProperties := ← parts.optional "cloud_properties" Reader.properties }

end DiskPool

namespace ResourcePool

def toJson (pool : ResourcePool) : Json :=
  .object [("name", pool.name), ("cloud_properties", .object pool.cloudProperties),
    ("env", .object pool.env)]

def read : Reader ResourcePool := fun depth value => do
  let parts ← Parts.of? ["name", "cloud_properties", "env"] depth value
  return {
    name := ← parts.required "name" Reader.string
    cloudProperties := ← parts.withDefault "cloud_properties" [] Reader.properties
    env := ← parts.withDefault "env" [] Reader.properties }

end ResourcePool

namespace Network

def toJson (network : Network) : Json :=
  .object [("name", network.name), ("type", network.type),
    ("ip", Json.ofOption .string network.ip), ("cloud_properties", .object network.cloudProperties)]

def read : Reader Network := fun depth value => do
  let parts ← Parts.of? ["name", "type", "ip", "cloud_properties"] depth value
  return {
    name := ← parts.required "name" Reader.string
    type := ← parts.required "type" Reader.string
    ip := ← parts.withDefault "ip" none Reader.string.nullable
    cloudProperties := ← parts.withDefault "cloud_properties" [] Reader.properties }

end Network

namespace Job

def toJson (job : Job) : Json :=
  .object [("name", job.name), ("instances", job.instances), ("resource_pool", job.resourcePool),
    ("networks", Json.strings job.networks), ("persistent_disk", job.persistentDisk),
    ("persistent_disk_pool", Json.ofOption .string job.persistentDiskPool)]

def read : Reader Job := fun depth value => do
  let parts ← Parts.of? ["name", "instances", "resource_pool", "networks", "persistent_disk",
    "persistent_disk_pool"] depth value
  return {
    name := ← parts.required "name" Reader.string
    instances := ← parts.required "instances" Reader.uint32
    resourcePool := ← parts.required "resource_pool" Reader.string
    networks := ← parts.withDefault "networks" [] Reader.string.list
    persistentDisk := ← parts.withDefault "persistent_disk" 0 Reader.uint64
    persistentDiskPool := ← parts.withDefault "persistent_disk_pool" none Reader.string.nullable }

end Job

namespace WatchTime

def toJson (watch : WatchTime) : Json :=
  .object [("start", watch.start), ("end", watch.finish)]

def read : Reader WatchTime := fun depth value => do
  let parts ← Parts.of? ["start", "end"] depth value
  return {
    start := ← parts.required "start" Reader.uint64
    finish := ← parts.required "end" Reader.uint64 }

end WatchTime

namespace Update

def toJson (update : Update) : Json := .object [("update_watch_time", update.watchTime.toJson)]

def read : Reader Update := fun depth value => do
  let parts ← Parts.of? ["update_watch_time"] depth value
  return { watchTime := ← parts.required "update_watch_time" WatchTime.read }

end Update

namespace ReleaseRef

def toJson (release : ReleaseRef) : Json :=
  .object [("name", release.name), ("version", release.version)]

def read : Reader ReleaseRef := fun depth value => do
  let parts ← Parts.of? ["name", "version"] depth value
  return {
    name := ← parts.required "name" Reader.string
    version := ← parts.required "version" Reader.string }

end ReleaseRef

namespace Manifest

def toJson (manifest : Manifest) : Json :=
  .object [("name", manifest.name), ("releases", .array (manifest.releases.map ReleaseRef.toJson)),
    ("jobs", .array (manifest.jobs.map Job.toJson)),
    ("disk_pools", .array (manifest.diskPools.map DiskPool.toJson)),
    ("resource_pools", .array (manifest.resourcePools.map ResourcePool.toJson)),
    ("networks", .array (manifest.networks.map Network.toJson)),
    ("update", manifest.update.toJson)]

def read : Reader Manifest := fun depth value => do
  let parts ← Parts.of? ["name", "releases", "jobs", "disk_pools", "resource_pools", "networks",
    "update"] depth value
  return {
    name := ← parts.required "name" Reader.string
    releases := ← parts.withDefault "releases" [] (Reader.list ReleaseRef.read)
    jobs := ← parts.withDefault "jobs" [] (Reader.list Job.read)
    diskPools := ← parts.withDefault "disk_pools" [] (Reader.list DiskPool.read)
    resourcePools := ← parts.withDefault "resource_pools" [] (Reader.list ResourcePool.read)
    networks := ← parts.withDefault "networks" [] (Reader.list Network.read)
    update := ← parts.withDefault "update" Update.none Update.read }

end Manifest

namespace SshTunnelConfig

def toJson (config : SshTunnelConfig) : Json :=
  .object [("host", config.host), ("port", config.port), ("user", config.user),
    ("password", config.password), ("private_key", config.privateKey)]

def read : Reader SshTunnelConfig := fun depth value => do
  let parts ← Parts.of? ["host", "port", "user", "password", "private_key"] depth value
  return {
    host := ← parts.required "host" Reader.string
    port := ← parts.required "port" Reader.uint16
    user := ← parts.required "user" Reader.string
    password := ← parts.withDefault "password" "" Reader.string
    privateKey := ← parts.withDefault "private_key" "" Reader.string }

end SshTunnelConfig

namespace RegistryConfig

def toJson (config : RegistryConfig) : Json :=
  .object [("username", config.username), ("password", config.password), ("host", config.host),
    ("port", config.port)]

def read : Reader RegistryConfig := fun depth value => do
  let parts ← Parts.of? ["username", "password", "host", "port"] depth value
  return {
    username := ← parts.required "username" Reader.string
    password := ← parts.required "password" Reader.string
    host := ← parts.required "host" Reader.string
    port := ← parts.required "port" Reader.uint16 }

end RegistryConfig

namespace StemcellManifest

def toJson (manifest : StemcellManifest) : Json :=
  .object [("name", manifest.name), ("version", manifest.version),
    ("image_path", manifest.imagePath), ("cloud_properties", .object manifest.cloudProperties)]

def read : Reader StemcellManifest := fun depth value => do
  let parts ← Parts.of? ["name", "version", "image_path", "cloud_properties"] depth value
  return {
    name := ← parts.required "name" Reader.string
    version := ← parts.required "version" Reader.string
    imagePath := ← parts.required "image_path" Reader.string
    cloudProperties := ← parts.withDefault "cloud_properties" [] Reader.properties }

end StemcellManifest

end Reconciler
