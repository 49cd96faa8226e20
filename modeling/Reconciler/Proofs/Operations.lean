import Reconciler.Deployment.Deploy
import Reconciler.Proofs.EngineRuns

/-!
The operations on a workspace, and histories of them. A history is any number of operations, one run
after the other; each goes on from what the one before has left, whether that went well or not.
-/
namespace Reconciler

/-- What can be done with a workspace as a whole. -/
inductive Operation
  | deploy (settings : Settings) (manifest : Manifest) (extracted : ExtractedStemcell)
      (registry : RegistryConfig) (tunnel : SshTunnelConfig)
  /-- Finds what is deployed and takes it down. -/
  | delete (settings : Settings) (stage : Stage)
  | cleanUp (stage : Stage)

namespace Operation

def program : Operation → Engine Unit
  | .deploy settings manifest extracted registry tunnel =>
    Deployment.deploy settings manifest extracted registry tunnel
  | .delete settings stage => do
    match ← Deployment.findCurrent settings with
    | none => return ()
    | some deployment => discard <| (Deployment.delete stage).toEngine deployment
  | .cleanUp stage => Deployment.cleanUp stage

/-- Anything but taking down what is deployed. -/
def KeepsDeployment : Operation → Prop
  | .delete .. => False
  | _ => True

end Operation

/-- An operation that is run from `s` comes to a moment where `left` is left of it. -/
def Operation.Comes (c : Conduct) (operation : Operation) (s : Surroundings)
    (left : Program Effects (Except Failure Unit)) (t : Surroundings) : Prop :=
  operation.program.run.Reaches c.Answers s.begin left t

/-- Runs of some of the operations lead from one state to another. -/
inductive History (c : Conduct) (admitted : Operation → Prop) :
    Surroundings → Surroundings → Prop
  | start (s : Surroundings) : History c admitted s s
  | run {s t u : Surroundings} {operation : Operation} {result : Except Failure Unit}
      (before : History c admitted s t) (allowed : admitted operation)
      (ran : operation.Comes c t (.done result) u) : History c admitted s u

/-- What every run of an admitted operation keeps holds after a history. -/
theorem History.invariant {c : Conduct} {admitted : Operation → Prop} {P : Surroundings → Prop}
    {s t : Surroundings} (history : History c admitted s t) (start : P s)
    (kept : ∀ (operation : Operation) (s : Surroundings), admitted operation → P s →
      operation.program.Meets c .none s.begin (fun _ => P) fun _ => P) : P t := by
  induction history with
  | start => exact start
  | @run t u operation result _ allowed ran ih =>
    have ended := Program.Meets.ends (kept operation t allowed ih) ran
    cases result with
    | ok => exact ended
    | error e => exact ended

end Reconciler
