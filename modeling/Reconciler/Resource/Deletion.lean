import Reconciler.Engine

/-!
Deleting what may be gone already. A resource is deleted in the cloud and then forgotten. When the
cloud no longer knows it, it is forgotten all the same and the cloud's error is returned, so that a
step can show as skipped.

Covers what `delete` of `Disk`, `CloudStemcell` and `Vm` have in common, and `skip_not_found`.
-/
namespace Reconciler

/-- Deletes in the cloud and then forgets. An error of another kind than `gone` stops before
anything is forgotten. -/
def deleteThenForget (deletion : Program Effects (Except CloudError Unit)) (gone : CloudErrorKind)
    (context : String) (forget : Engine Unit) : Engine Unit := do
  match ← (deletion : Program Effects (Except CloudError Unit)) with
  | .ok () => forget
  | .error error =>
    if error.kind = gone then
      forget
      throw (.cloud error)
    else throw (.within context (.cloud error))

/-- Turns a tolerated "already gone" into a skipped step, with a reason made from the failure. -/
def skipIfGone (gone : CloudErrorKind) (reason : Failure → String) (deletion : Engine Unit) :
    Engine Outcome := ExceptT.mk do
  match ← deletion.run with
  | .ok () => return .ok .finished
  | .error failure =>
    if failure.cloudKind = some gone then return .ok (.skipped (reason failure))
    else return .error failure

/-- Runs an action for every item, in order, until one fails. -/
def forEach {α : Type} (items : List α) (action : α → Engine Unit) : Engine Unit :=
  match items with
  | [] => pure ()
  | item :: rest => do
    action item
    forEach rest action

end Reconciler
