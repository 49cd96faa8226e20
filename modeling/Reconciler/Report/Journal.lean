import Reconciler.Report.Values

/-!
A journal of what the engine asked of its surroundings, for a reader: each request is a list that
names the part it went to, the call, and what the call was about.
-/
namespace Reconciler

/-- What a cloud call is about. -/
def CloudCall.subject : CloudCall → Json
  | .createStemcell imagePath properties =>
    .object [("image_path", imagePath), ("cloud_properties", .object properties)]
  | .createVm agentId stemcellCid properties diskCids networks env =>
    .object [("agent_id", agentId), ("stemcell_cid", stemcellCid),
      ("cloud_properties", .object properties), ("disk_cids", .strings diskCids),
      ("networks", .object networks), ("env", .object env)]
  | .setVmMetadata cid metadata =>
    .array [.string cid, .object (metadata.map fun (name, text) => (name, .string text))]
  | .createDisk size properties vmCid =>
    .object [("size", size), ("cloud_properties", .object properties), ("vm_cid", vmCid)]
  | .attachDisk vmCid diskCid => .strings [vmCid, diskCid]
  | .detachDisk vmCid diskCid => .strings [vmCid, diskCid]
  | .deleteStemcell cid => cid
  | .hasVm cid => cid
  | .deleteVm cid => cid
  | .deleteDisk cid => cid

/-- What is said with an agent call. -/
def AgentCall.arguments : AgentCall → List Json
  | .apply spec => [.object [("spec", spec)]]
  | .mountDisk cid => [.string cid]
  | .unmountDisk cid => [.string cid]
  | .runScript script options => [.string script, .object options]
  | _ => []

def RenderCall.entry : RenderCall → List Json
  | .initial job index manifest =>
    [.string "builder", .string "initial", .string job, index, .string manifest.name]
  | .final job index manifest resolved =>
    [.string "builder", .string "final", .string job, index, .string manifest.name,
      resolved.toJson]

def Notice.entry : Notice → List Json
  | .stageStarted stage => [.string "stage", .string "started", .string stage]
  | .stageFinished stage => [.string "stage", .string "finished", .string stage]
  | .step event =>
    [.string "step", .string event.stage, .string event.step, .string event.state.name] ++
      event.message.toList.map .string

/-- Requests that nothing outside the engine sees have no entry. -/
def Request.entry : Request → List Json
  | .cloud call => [.string "cloud", .string call.method, call.subject]
  | .agent call => [.string "agent", .string call.method] ++ call.arguments
  | .render call => call.entry
  | .connect options => [.string "ssh", .string "connect", options.toJson]
  | .report notice => notice.entry
  | _ => []

namespace Journal

/-- Equal neighbours as one entry with their number, the last entry first. -/
def grouped (entries : List (List Json)) : List (List Json × Nat) :=
  entries.foldl (fun groups entry =>
    match groups with
    | (last, n) :: rest =>
      if Json.sameItems last entry then (last, n + 1) :: rest else (entry, 1) :: groups
    | [] => [(entry, 1)]) []

/-- An entry that stands for several tells how many, as its last item. -/
def counted (entry : List Json) (n : Nat) : Json :=
  .array (if n = 1 then entry else entry ++ [.string s!"x{n}"])

/-- The journal of some requests, the first one first. -/
def ofRequests (requests : List Request) : List Json :=
  (grouped (requests.map Request.entry)).reverse.map fun (entry, n) => counted entry n

end Journal

end Reconciler
