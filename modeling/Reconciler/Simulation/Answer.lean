import Reconciler.Simulation.Time

/-!
How a scripted world answers requests. Every call is written to a journal, then takes its scripted
time, then meets the scripted failures; a call that fails has no other effect.
-/
namespace Reconciler.World

/-- A call at a point: it takes its time and may meet a rule. -/
def enter (point : String) (argument : Option String) : Live (Option Mishap) := do
  sleep ((← get).latency point)
  rulesAt point argument

/-- What a failure rule can filter cloud calls by. -/
def subject : CloudCall → String
  | .createStemcell imagePath _ => imagePath
  | .deleteStemcell cid => cid
  | .createVm _ stemcellCid .. => stemcellCid
  | .hasVm cid => cid
  | .deleteVm cid => cid
  | .setVmMetadata cid _ => cid
  | .createDisk _ _ vmCid => vmCid
  | .deleteDisk cid => cid
  | .attachDisk _ diskCid => diskCid
  | .detachDisk _ diskCid => diskCid

/-- The next cloud id of a kind: a queued one, or one made up. -/
def nextCid (kind : String) : Live String := modifyGet fun w =>
  match w.queuedCids with
  | cid :: rest => (cid, { w with queuedCids := rest })
  | [] => (s!"{kind}-cid-{w.created + 1}", { w with created := w.created + 1 })

def notFound (method : String) (kind : CloudErrorKind) (noun cid : String) : CloudError :=
  ⟨method, kind, s!"{noun} '{cid}' not found"⟩

/-- What a cloud call does when no rule is in its way. -/
def cloudEffect : (call : CloudCall) → Live (Except CloudError call.Answer)
  | .createStemcell .. => do
    let cid ← nextCid "stemcell"
    modify fun w => { w with stemcells := w.stemcells.insert cid }
    return .ok cid
  | .deleteStemcell cid => do
    if (← get).stemcells.contains cid then
      modify fun w => { w with stemcells := w.stemcells.erase cid }
      return .ok ()
    else return .error (notFound "delete_stemcell" .stemcellNotFound "stemcell" cid)
  | .createVm .. => do
    let cid ← nextCid "vm"
    modify fun w => { w with vms := w.vms.insert cid }
    return .ok cid
  | .hasVm cid => return .ok ((← get).vms.contains cid)
  | .deleteVm cid => do
    if (← get).vms.contains cid then
      modify fun w => { w with vms := w.vms.erase cid }
      return .ok ()
    else return .error (notFound "delete_vm" .vmNotFound "vm" cid)
  | .setVmMetadata .. => return .ok ()
  | .createDisk .. => do
    let cid ← nextCid "disk"
    modify fun w => { w with disks := w.disks.insert cid }
    return .ok cid
  | .deleteDisk cid => do
    if (← get).disks.contains cid then
      modify fun w => { w with disks := w.disks.erase cid }
      return .ok ()
    else return .error (notFound "delete_disk" .diskNotFound "disk" cid)
  | .attachDisk vm disk => do
    if !(← get).vms.contains vm then
      return .error (notFound "attach_disk" .vmNotFound "vm" vm)
    else if !(← get).disks.contains disk then
      return .error (notFound "attach_disk" .diskNotFound "disk" disk)
    else return .ok ()
  | .detachDisk .. => return .ok ()

def cloudCall (call : CloudCall) : Live (Except CloudError call.Answer) := do
  write (.cloud call)
  match ← enter s!"cloud.{call.method}" (some (subject call)) with
  | some (.cloud kind message) => return .error ⟨call.method, kind, message⟩
  | _ => cloudEffect call

/-- What a failure rule can filter agent calls by. -/
def agentSubject : AgentCall → Option String
  | .mountDisk cid => some cid
  | .unmountDisk cid => some cid
  | .runScript script _ => some script
  | _ => none

/-- Job states are reported in turn; the last one stays. -/
def nextJobState : Live String := modifyGet fun w =>
  match w.jobStates with
  | [] => ("running", w)
  | [state] => (state, w)
  | state :: rest => (state, { w with jobStates := rest })

def agentEffect : (call : AgentCall) → Live call.Answer
  | .ping => return "pong"
  | .stop => return ()
  | .start => return ()
  | .apply _ => return ()
  | .getState => return ⟨← nextJobState, (← get).networks⟩
  | .listDisk => return (← get).mounted
  | .mountDisk cid => modify fun w =>
    { w with mounted := if w.mounted.contains cid then w.mounted else w.mounted ++ [cid] }
  | .unmountDisk cid => modify fun w => { w with mounted := w.mounted.filter (· != cid) }
  | .migrateDisk => return ()
  | .drain => return ()
  | .runScript .. => return ()

def agentCall (call : AgentCall) : Live (Except Failure call.Answer) := do
  write (.agent call)
  match ← enter s!"agent.{call.method}" (agentSubject call) with
  | some (.failure failure) => return .error failure
  | _ => return .ok (← agentEffect call)

/-- Specs that name what they were made from. -/
def renderedSpec : RenderCall → Json
  | .initial job index manifest =>
    .object [("deployment", manifest.name), ("index", index), ("initial", true), ("job", job)]
  | .final job index manifest resolved =>
    .object [("deployment", manifest.name), ("index", index), ("job", job),
      ("networks", .object resolved.networks)]

def renderPoint : RenderCall → String
  | .initial .. => "builder.initial"
  | .final .. => "builder.final"

def renderCall (call : RenderCall) : Live (Except Failure Json) := do
  write (.render call)
  match ← enter (renderPoint call) none with
  | some (.failure failure) => return .error failure
  | _ => return .ok (renderedSpec call)

/-- Runs a file store's action. An identifier that was handed out in vain is taken back. -/
def onFile {α : Type} (action : FileStore.Action α) (place : Place) : Live (Except Failure α) := do
  let ids := (← get).ids
  let before := (← get).minted
  let (result, tree, minted) := Program.run
    (fun request (tree, minted) =>
      let (reply, tree) := FileTree.answer request tree (ids.nth (minted + 1))
      let minted := match request with
        | .freshId => minted + 1
        | _ => minted
      (reply, tree, minted))
    action.run (place.tree, before)
  modify fun w => { w with store := .file { place with tree := tree } }
  match result with
  | .ok value =>
    modify fun w => { w with minted := minted }
    return .ok value
  | .error fault => return .error (.storage fault)

def loadStore : Live (Except Failure Document) := do
  match (← get).store with
  | .memory doc =>
    let (found, doc) ← (MemoryStore.load : StateT (Option Document) Live Document).run doc
    modify fun w => { w with store := .memory doc }
    return .ok found
  | .file place => onFile (FileStore.load place.path) place

def saveStore (doc : Document) : Live (Except Failure Unit) := do
  match (← get).store with
  | .memory _ =>
    modify fun w => { w with store := .memory (some doc) }
    return .ok ()
  | .file place => onFile (FileStore.save place.path doc) place

def loadCall : Live (Except Failure Document) := do
  match ← enter "store.load" none with
  | some (.failure failure) => return .error failure
  | _ => loadStore

def saveCall (doc : Document) : Live (Except Failure Unit) := do
  match ← enter "store.save" none with
  | some (.failure failure) => return .error failure
  | some .lost => return .ok ()
  | _ => saveStore doc

def connectCall (options : TunnelOptions) : Live (Except SshError Session) := do
  write (.connect options)
  match ← enter "ssh.connect" (some options.host) with
  | some (.ssh message) => return .error ⟨message⟩
  | _ => modifyGet fun w =>
    (.ok w.forwardings.length, { w with forwardings := w.forwardings ++ [.over (.ok ())] })

def forwardCall (session : Session) (remotePort localPort : UInt16) : Live Unit := do
  modify fun w => { w with forwards := w.forwards ++ [(remotePort, localPort)] }
  beginStarting session

def closeCall (session : Session) : Live (Except ForwardFault Unit) := do
  tellToEnd session
  awaitEnd session ((← get).alarmBound + 1)

def answer : (request : Request) → Live request.Reply
  | .cloud call => cloudCall call
  | .agent call => agentCall call
  | .render call => renderCall call
  | .load => loadCall
  | .save doc => saveCall doc
  | .connect options => connectCall options
  | .forward session remotePort localPort => forwardCall session remotePort localPort
  | .close session => closeCall session
  | .report notice => do
    write (.report notice)
    modify fun w => { w with recorder := w.recorder.record notice }
  | .now => return (← get).now
  | .sleep ms => sleep ms
  | .freshId => mint

/-- One request and what becomes of the world. -/
def react (request : Effects.Request) (w : World) : Effects.Reply request × World :=
  Id.run ((answer request).run w)

/-- Runs an engine program in this world. -/
def perform {α : Type} (program : Program Effects α) : Live α := fun w => program.run react w

end Reconciler.World
