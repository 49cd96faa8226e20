import Reconciler.Deployment.Teardown
import Reconciler.Progress.Recorder
import Reconciler.Tunnel.Basic

/-!
Values of the engine as they are reported to other tools, in JSON. What a report leaves out can be
looked up in the workspace document.
-/
namespace Reconciler

def Settings.toJson (s : Settings) : Json :=
  .object [("ping_timeout", .ofNat s.pingTimeout), ("ping_delay", .ofNat s.pingDelay),
    ("agent_ready_timeout", .ofNat s.agentReadyTimeout),
    ("agent_ready_delay", .ofNat s.agentReadyDelay),
    ("running_poll_delay", .ofNat s.runningPollDelay),
    ("ssh_connection_refused_timeout", .ofNat s.sshRefusedTimeout),
    ("ssh_auth_failure_timeout", .ofNat s.sshAuthTimeout),
    ("ssh_retry_delay", .ofNat s.sshRetryDelay), ("skip_drain", s.skipDrain)]

def TunnelOptions.toJson (o : TunnelOptions) : Json :=
  .object [("host", o.host), ("port", o.port), ("user", o.user), ("password", o.password),
    ("private_key", o.privateKey), ("local_forward_port", o.localPort),
    ("remote_forward_port", o.remotePort)]

/-- The name of the part that a failure came from. -/
def Failure.origin (failure : Failure) : String :=
  match failure.root with
  | .cloud _ => "cloud"
  | .agent _ => "agent"
  | .storage _ => "storage"
  | .invalidState _ => "invalid_state"
  | .validation _ => "validation"
  | .ssh _ => "ssh"
  | .timeout _ => "timeout"
  | .within _ _ => ""

/-- Members of a report on a failure. -/
def Failure.members (failure : Failure) : List (String × Json) :=
  [("error", .string failure.origin), ("message", .string failure.text),
    ("recoverable", .bool failure.isRecoverable)] ++
    failure.cloudKind.toList.map fun kind => ("cloud_kind", .string kind.name)

/-- Members of a report on a result. -/
def resultMembers {α : Type} (f : α → Json) : Except Failure α → List (String × Json)
  | .ok value => [("ok", f value)]
  | .error failure => failure.members

/-- Stages and events in order, and what follows from them for each step. -/
def Recorder.toJson (recorder : Recorder) : Json :=
  let state (s : StepState) : Json := s.name
  .object [("stages", .strings recorder.stages), ("events", .list StepEvent.toJson recorder.events),
    ("step_names", .strings recorder.stepNames),
    ("step_states", .list (fun (name, states) => .array [.string name, .list state states])
      recorder.stepStates),
    ("outcomes", .list (fun (name, s) => .array [.string name, state s]) recorder.outcomes)]

def DiskRecord.report (disk : DiskRecord) : Json :=
  .object [("cid", disk.cid), ("size", disk.size), ("props", .object disk.cloudProperties),
    ("id", disk.id)]

/-- A disk without its record's id. -/
def DiskRecord.brief (disk : DiskRecord) : Json :=
  .object [("cid", disk.cid), ("size", disk.size), ("props", .object disk.cloudProperties)]

def Instance.report (i : Instance) : Json :=
  .object [("job", i.jobName), ("id", i.index), ("vm", i.vm.cid), ("state", i.phase.name)]

def Deployment.report (deployment : Deployment) : Json :=
  .object [("instances", .list Instance.report deployment.instances),
    ("disks", .list DiskRecord.report deployment.disks),
    ("stemcells", .list StemcellRecord.toJson deployment.stemcells),
    ("is_empty", deployment.isEmpty)]

/-- What a document keeps, without the ids that are the document's own. -/
def Document.inventory (doc : Document) : Json :=
  let release (r : ReleaseRecord) : Json := .strings [r.name, r.version]
  .object [
    ("vm", if doc.currentVmCid.isEmpty then .null else .string doc.currentVmCid),
    ("disk", .ofOption (fun d => .string (DiskRecord.cid d)) doc.currentDisk),
    ("stemcell", .ofOption (fun s => .string (StemcellRecord.cid s)) doc.currentStemcell),
    ("disks", .list (fun d => .array [.string d.cid, d.size, .object d.cloudProperties]) doc.disks),
    ("stemcells", .list (fun s => .strings [s.name, s.version, s.cid]) doc.stemcells),
    ("releases", .list release doc.releases),
    ("current_releases", .list release doc.currentReleases)]

end Reconciler
