import Reconciler.Instance.Phase
import Reconciler.Manifest.Basic
import Reconciler.Program
import Reconciler.Progress.Stage
import Reconciler.Workspace.Document

/-!
What the engine asks of its surroundings: the cloud, the agent on the machine, the renderer of job
specs, the store of the workspace document, SSH, listeners, the clock, and fresh identifiers.

Covers the calls of the interfaces `Cloud`, `AgentClient`, `StateBuilder`, `StateService`,
`SshConnector`, `SshSession` and `EventSink`.
-/
namespace Reconciler

/-- A call to the cloud. -/
inductive CloudCall
  | createStemcell (imagePath : String) (properties : Properties)
  | deleteStemcell (cid : String)
  | createVm (agentId stemcellCid : String) (properties : Properties) (diskCids : List String)
      (networks env : Properties)
  | hasVm (cid : String)
  | deleteVm (cid : String)
  | setVmMetadata (cid : String) (metadata : List (String × String))
  | createDisk (size : UInt64) (properties : Properties) (vmCid : String)
  | deleteDisk (cid : String)
  | attachDisk (vmCid diskCid : String)
  | detachDisk (vmCid diskCid : String)

namespace CloudCall

/-- Creating answers the new cloud id, asking answers yes or no. -/
def Answer : CloudCall → Type
  | .createStemcell .. | .createVm .. | .createDisk .. => String
  | .hasVm .. => Bool
  | .deleteStemcell .. | .deleteVm .. | .setVmMetadata .. | .deleteDisk .. | .attachDisk ..
  | .detachDisk .. => Unit

/-- The name that clouds know the call by. -/
def method : CloudCall → String
  | .createStemcell .. => "create_stemcell"
  | .deleteStemcell .. => "delete_stemcell"
  | .createVm .. => "create_vm"
  | .hasVm .. => "has_vm"
  | .deleteVm .. => "delete_vm"
  | .setVmMetadata .. => "set_vm_metadata"
  | .createDisk .. => "create_disk"
  | .deleteDisk .. => "delete_disk"
  | .attachDisk .. => "attach_disk"
  | .detachDisk .. => "detach_disk"

end CloudCall

/-- A call to the agent on the machine. -/
inductive AgentCall
  | ping
  | stop
  | start
  | apply (spec : Json)
  | getState
  | listDisk
  | mountDisk (cid : String)
  | unmountDisk (cid : String)
  /-- Copies the data of the old disk to the one mounted last. -/
  | migrateDisk
  | drain
  | runScript (script : String) (options : Properties)

namespace AgentCall

def Answer : AgentCall → Type
  | .ping => String
  | .getState => AgentState
  | .listDisk => List String
  | .stop | .start | .apply .. | .mountDisk .. | .unmountDisk .. | .migrateDisk | .drain
  | .runScript .. => Unit

def method : AgentCall → String
  | .ping => "ping"
  | .stop => "stop"
  | .start => "start"
  | .apply .. => "apply"
  | .getState => "get_state"
  | .listDisk => "list_disk"
  | .mountDisk .. => "mount_disk"
  | .unmountDisk .. => "unmount_disk"
  | .migrateDisk => "migrate_disk"
  | .drain => "drain"
  | .runScript .. => "run_script"

end AgentCall

/-- A spec that is wanted for the jobs of an instance: a first one that lets the agent bring up its
networks, and the full one made from what the agent then reports. -/
inductive RenderCall
  | initial (job : String) (index : UInt32) (manifest : Manifest)
  | final (job : String) (index : UInt32) (manifest : Manifest) (resolved : AgentState)

/-- All that is needed to open one tunnel. -/
structure TunnelOptions where
  host : String
  port : UInt16
  user : String
  password : String
  /-- Path of a key file. -/
  privateKey : String
  localPort : UInt16
  remotePort : UInt16
  deriving DecidableEq

/-- A connection that was opened, by its number. -/
abbrev Session := Nat

/-- How the work of a tunnel can end other than well. -/
inductive ForwardFault
  | failed (error : SshError)
  | crashed

inductive Request
  | cloud (call : CloudCall)
  | agent (call : AgentCall)
  | render (call : RenderCall)
  | load
  | save (doc : Document)
  | connect (options : TunnelOptions)
  /-- Starts to serve a remote port from a local one, in the background. -/
  | forward (session : Session) (remotePort localPort : UInt16)
  /-- Tells a forwarding session to end and waits until it has. -/
  | close (session : Session)
  | report (notice : Notice)
  | now
  | sleep (ms : Nat)
  | freshId

def Request.Reply : Request → Type
  | .cloud call => Except CloudError call.Answer
  | .agent call => Except Failure call.Answer
  | .render _ => Except Failure Json
  | .load => Except Failure Document
  | .save _ => Except Failure Unit
  | .connect _ => Except SshError Session
  | .forward .. => Unit
  | .close _ => Except ForwardFault Unit
  | .report _ => Unit
  | .now => Nat
  | .sleep _ => Unit
  | .freshId => String

/-- The surroundings of the engine. -/
abbrev Effects : Signature := ⟨Request, Request.Reply⟩

end Reconciler
