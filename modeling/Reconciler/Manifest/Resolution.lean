import Reconciler.Failure
import Reconciler.Manifest.Basic

/-!
What a job of a manifest resolves to: its persistent disk, its resource pool and the networks of its
machine. A name that the manifest does not declare is a fault of the manifest.

Covers `Manifest`: `validate_single_instance`, `job_name`, `disk_pool`, `resource_pool`,
`network_interfaces`.
-/
namespace Reconciler

def DiskPool.propertiesOrEmpty (pool : DiskPool) : Properties := pool.cloudProperties.getD []

namespace Manifest

/-- The only job there is, which must ask for one instance. -/
def singleJob (manifest : Manifest) : Except ManifestFault Job :=
  match manifest.jobs with
  | [job] =>
    if job.instances = 1 then .ok job else .error (.instanceCount job.name job.instances)
  | jobs => .error (.jobCount jobs.length)

/-- The name of the first job, or nothing. -/
def jobName (manifest : Manifest) : String := (manifest.jobs.head?.map Job.name).getD ""

def job (manifest : Manifest) (name : String) : Except ManifestFault Job :=
  match manifest.jobs.find? (·.name == name) with
  | some job => .ok job
  | none => .error (.noJob name)

/-- The persistent disk that a job asks for. Its properties are always present, so that it compares
equal to the disk made for it. -/
def diskPool (manifest : Manifest) (jobName : String) : Except ManifestFault DiskPool := do
  let job ← manifest.job jobName
  match job.persistentDiskPool with
  | none => return { name := "", size := job.persistentDisk, cloudProperties := some [] }
  | some poolName =>
    match manifest.diskPools.find? (·.name == poolName) with
    | some pool => return { pool with cloudProperties := some pool.propertiesOrEmpty }
    | none => throw (.noDiskPool poolName jobName)

def resourcePool (manifest : Manifest) (jobName : String) : Except ManifestFault ResourcePool := do
  let job ← manifest.job jobName
  match manifest.resourcePools.find? (·.name == job.resourcePool) with
  | some pool => return pool
  | none => throw (.noResourcePool job.resourcePool jobName)

/-- What the cloud is told about a network. -/
def networkSettings (network : Network) : Json :=
  .object [("cloud_properties", .object network.cloudProperties),
    ("ip", (network.ip.getD "" : String)), ("type", network.type)]

/-- The networks of a job by name, as the cloud wants them. -/
def networkInterfaces (manifest : Manifest) (jobName : String) :
    Except ManifestFault Properties := do
  let job ← manifest.job jobName
  job.networks.foldlM (fun interfaces name =>
    match manifest.networks.find? (·.name == name) with
    | some network => .ok (interfaces.insert network.name (networkSettings network))
    | none => .error (.noNetwork name jobName)) []

end Manifest

end Reconciler
