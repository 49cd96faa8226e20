import Reconciler.Engine
import Reconciler.Progress.Recorder
import Reconciler.Workspace.MemoryStore

/-!
A simpler world for the engine, with a memory of what was done: which disks are attached where, what
machines were told about themselves, which specs were applied. Failures are armed one at a time for
a method, or for good for a method and a cloud id.

Covers `FakeCloud`, `FakeAgent`, `FakeSshConnector`, `FakeSshSession` and `FakeStateBuilder` of the
engine's own tests.
-/
namespace Reconciler

structure Testbed where
  now : Nat
  minted : Nat
  doc : Option Document
  /-- How many cloud ids were made up. -/
  created : Nat
  stemcells : List String
  vms : List String
  disks : List String
  /-- Machine and disk. -/
  attachments : List (String × String)
  metadata : List (String × List (String × String))
  /-- The disks that a machine was to be placed near. -/
  diskHints : List (String × List String)
  deletedDisks : List String
  /-- Methods of the cloud that were called, the last one first. -/
  cloudCalls : List String
  /-- Failures of the next call of a method. -/
  cloudFailures : List (String × CloudError)
  /-- Failures of every call of a method about a cloud id. -/
  lastingFailures : List ((String × String) × CloudError)
  /-- Calls to the agent, the last one first. -/
  agentCalls : List String
  pingFailures : Nat
  jobStates : List String
  agentFailures : List (String × String)
  mounted : List String
  applied : List Json
  networks : Properties
  sshFailures : List String
  sshAttempts : Nat
  forwards : List (UInt16 × UInt16)
  closed : Nat
  rendererFailure : Option String
  recorder : Recorder

namespace Testbed

def new : Testbed where
  now := 0
  minted := 0
  doc := none
  created := 0
  stemcells := []
  vms := []
  disks := []
  attachments := []
  metadata := []
  diskHints := []
  deletedDisks := []
  cloudCalls := []
  cloudFailures := []
  lastingFailures := []
  agentCalls := []
  pingFailures := 0
  jobStates := []
  agentFailures := []
  mounted := []
  applied := []
  networks := []
  sshFailures := []
  sshAttempts := 0
  forwards := []
  closed := 0
  rendererFailure := none
  recorder := .empty

abbrev Live := StateM Testbed

/-- Puts a value under a key, in place of an older one. -/
def assign {κ β : Type} [BEq κ] (key : κ) (value : β) (entries : List (κ × β)) : List (κ × β) :=
  (key, value) :: entries.filter (·.1 != key)

/-- Counts a call and looks for a failure: one armed for the next call goes first. -/
def enterCloud (method cid : String) : Live (Option CloudError) := modifyGet fun t =>
  let t := { t with cloudCalls := method :: t.cloudCalls }
  match t.cloudFailures.lookup method with
  | some error => (some error, { t with cloudFailures := t.cloudFailures.filter (·.1 != method) })
  | none => (t.lastingFailures.lookup (method, cid), t)

def nextCid (kind : String) : Live String := modifyGet fun t =>
  (s!"{kind}-cid-{t.created + 1}", { t with created := t.created + 1 })

/-- What failures for good can be about; creating a stemcell is about nothing. -/
def subject : CloudCall → String
  | .createStemcell .. => ""
  | .deleteStemcell cid => cid
  | .createVm _ stemcellCid .. => stemcellCid
  | .hasVm cid => cid
  | .deleteVm cid => cid
  | .setVmMetadata cid _ => cid
  | .createDisk _ _ vmCid => vmCid
  | .deleteDisk cid => cid
  | .attachDisk _ diskCid => diskCid
  | .detachDisk _ diskCid => diskCid

def cloudEffect : (call : CloudCall) → Live (Except CloudError call.Answer)
  | .createStemcell .. => do
    let cid ← nextCid "stemcell"
    modify fun t => { t with stemcells := t.stemcells.insert cid }
    return .ok cid
  | .deleteStemcell cid => do
    if (← get).stemcells.contains cid then
      modify fun t => { t with stemcells := t.stemcells.erase cid }
      return .ok ()
    else return .error ⟨"delete_stemcell", .stemcellNotFound, s!"stemcell '{cid}' not found"⟩
  | .createVm _ _ _ diskCids _ _ => do
    let cid ← nextCid "vm"
    modify fun t => { t with
      vms := t.vms.insert cid
      diskHints := assign cid diskCids t.diskHints }
    return .ok cid
  | .hasVm cid => return .ok ((← get).vms.contains cid)
  | .deleteVm cid => do
    if (← get).vms.contains cid then
      modify fun t => { t with
        vms := t.vms.erase cid
        attachments := t.attachments.filter (·.1 != cid) }
      return .ok ()
    else return .error ⟨"delete_vm", .vmNotFound, s!"vm '{cid}' not found"⟩
  | .setVmMetadata cid metadata => do
    modify fun t => { t with metadata := assign cid metadata t.metadata }
    return .ok ()
  | .createDisk .. => do
    let cid ← nextCid "disk"
    modify fun t => { t with disks := t.disks.insert cid }
    return .ok cid
  | .deleteDisk cid => do
    if (← get).disks.contains cid then
      modify fun t => { t with
        disks := t.disks.erase cid
        attachments := t.attachments.filter (·.2 != cid)
        deletedDisks := t.deletedDisks ++ [cid] }
      return .ok ()
    else return .error ⟨"delete_disk", .diskNotFound, s!"disk '{cid}' not found"⟩
  | .attachDisk vm disk => do
    if !(← get).vms.contains vm then return .error ⟨"attach_disk", .vmNotFound, vm⟩
    else if !(← get).disks.contains disk then return .error ⟨"attach_disk", .diskNotFound, disk⟩
    else
      modify fun t => { t with attachments := t.attachments.insert (vm, disk) }
      return .ok ()
  | .detachDisk vm disk => do
    modify fun t => { t with attachments := t.attachments.filter (· != (vm, disk)) }
    return .ok ()

def cloudCall (call : CloudCall) : Live (Except CloudError call.Answer) := do
  match ← enterCloud call.method (subject call) with
  | some error => return .error error
  | none => cloudEffect call

/-- The name a call is counted under: scripts are told apart. -/
def callName : AgentCall → String
  | .runScript script _ => s!"run_script:{script}"
  | call => call.method

def enterAgent (name : String) : Live (Option Failure) := modifyGet fun t =>
  let t := { t with agentCalls := name :: t.agentCalls }
  match t.agentFailures.lookup name with
  | some message =>
    (some (.agent message), { t with agentFailures := t.agentFailures.filter (·.1 != name) })
  | none => (none, t)

/-- Job states are reported in turn; the last one stays. -/
def nextJobState : Live String := modifyGet fun t =>
  match t.jobStates with
  | [] => ("running", t)
  | [state] => (state, t)
  | state :: rest => (state, { t with jobStates := rest })

def agentEffect : (call : AgentCall) → Live (Except Failure call.Answer)
  | .ping => do
    let left := (← get).pingFailures
    if left = 0 then return .ok "pong"
    else
      modify fun t => { t with pingFailures := left - 1 }
      return .error (.agent "connection refused")
  | .stop => return .ok ()
  | .start => return .ok ()
  | .apply spec => do
    modify fun t => { t with applied := t.applied ++ [spec] }
    return .ok ()
  | .getState => return .ok ⟨← nextJobState, (← get).networks⟩
  | .listDisk => return .ok (← get).mounted
  | .mountDisk cid => do
    modify fun t => { t with
      mounted := if t.mounted.contains cid then t.mounted else t.mounted ++ [cid] }
    return .ok ()
  | .unmountDisk cid => do
    modify fun t => { t with mounted := t.mounted.filter (· != cid) }
    return .ok ()
  | .migrateDisk => return .ok ()
  | .drain => return .ok ()
  | .runScript .. => return .ok ()

def agentCall (call : AgentCall) : Live (Except Failure call.Answer) := do
  match ← enterAgent (callName call) with
  | some failure => return .error failure
  | none => agentEffect call

def renderCall : RenderCall → Live (Except Failure Json)
  | .initial job index manifest =>
    return .ok (.object [("deployment", manifest.name), ("index", index), ("initial", true),
      ("job", job)])
  | .final job index manifest resolved => do
    match (← get).rendererFailure with
    | some message => return .error (.validation (.reported message))
    | none =>
      return .ok (.object [("deployment", manifest.name), ("index", index), ("job", job),
        ("networks", .object resolved.networks)])

def connectCall : Live (Except SshError Session) := modifyGet fun t =>
  let t := { t with sshAttempts := t.sshAttempts + 1 }
  match t.sshFailures with
  | message :: rest => (.error ⟨message⟩, { t with sshFailures := rest })
  | [] => (.ok t.sshAttempts, t)

def mint : Live String := modifyGet fun t =>
  (s!"id-{t.minted + 1}", { t with minted := t.minted + 1 })

instance : FreshIds Live := ⟨mint⟩

def loadCall : Live (Except Failure Document) := do
  let (found, doc) ← (MemoryStore.load : StateT (Option Document) Live Document).run (← get).doc
  modify fun t => { t with doc := doc }
  return .ok found

def answer : (request : Request) → Live request.Reply
  | .cloud call => cloudCall call
  | .agent call => agentCall call
  | .render call => renderCall call
  | .load => loadCall
  | .save doc => do
    modify fun t => { t with doc := some doc }
    return .ok ()
  | .connect _ => connectCall
  | .forward _ remotePort localPort => modify fun t =>
    { t with forwards := t.forwards ++ [(remotePort, localPort)] }
  | .close _ => do
    modify fun t => { t with closed := t.closed + 1 }
    return .ok ()
  | .report notice => modify fun t => { t with recorder := t.recorder.record notice }
  | .now => return (← get).now
  | .sleep ms => modify fun t => { t with now := t.now + sleepTime ms }
  | .freshId => mint

/-- One request and what becomes of the testbed. -/
def react (request : Effects.Request) (t : Testbed) : Effects.Reply request × Testbed :=
  Id.run ((answer request).run t)

/-- Runs an engine program on this testbed. -/
def perform {α : Type} (program : Program Effects α) : Live α := fun t => program.run react t

/-- Runs a program whose progress nobody listens to. -/
def performUnheard {α : Type} (program : Program Effects α) : Live α := do
  let heard := (← get).recorder
  let result ← perform program
  modify fun t => { t with recorder := heard }
  return result

end Testbed

end Reconciler
