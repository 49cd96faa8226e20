import Mathlib.Data.Finset.Card
import Mathlib.Data.Finset.Insert
import Mathlib.Data.Finset.Image
import Reconciler.Effect
import Reconciler.Proofs.Runs

/-!
The surroundings of the engine as its contracts describe them: a cloud that holds resources, a store
that holds the workspace document, and collaborators that may fail. A call that fails has no effect.
Nobody but the engine changes the cloud or the document. What may go wrong beyond that is the
`Conduct` of the surroundings.
-/
namespace Reconciler

/-- The kinds of things that a cloud provides. -/
inductive Resource
  | vm
  | disk
  | stemcell
  deriving DecidableEq

/-- For each kind of resource some cids. -/
abbrev Holdings := Resource → Finset String

namespace Holdings

def add (held : Holdings) (kind : Resource) (cid : String) : Holdings :=
  fun k => if k = kind then insert cid (held k) else held k

def drop (held : Holdings) (kind : Resource) (cid : String) : Holdings :=
  fun k => if k = kind then (held k).erase cid else held k

@[simp] theorem add_same (held : Holdings) (kind : Resource) (cid : String) :
    held.add kind cid kind = insert cid (held kind) := by simp [add]

@[simp] theorem drop_same (held : Holdings) (kind : Resource) (cid : String) :
    held.drop kind cid kind = (held kind).erase cid := by simp [drop]

theorem drop_other (held : Holdings) {kind other : Resource} (cid : String) (h : other ≠ kind) :
    held.drop kind cid other = held other := by simp [drop, h]

theorem mem_add_of_mem {held : Holdings} {kind other : Resource} {cid new : String}
    (h : cid ∈ held other) : cid ∈ held.add kind new other := by
  unfold add
  split
  · exact Finset.mem_insert_of_mem h
  · exact h

end Holdings

namespace CloudCall

/-- The kind and the cid of what a call has created. -/
def created : (call : CloudCall) → call.Answer → Option (Resource × String)
  | .createStemcell .., cid => some (.stemcell, cid)
  | .createVm .., cid => some (.vm, cid)
  | .createDisk .., cid => some (.disk, cid)
  | _, _ => none

/-- The kind and the cid of what a call is to delete. -/
def deleted : CloudCall → Option (Resource × String)
  | .deleteStemcell cid => some (.stemcell, cid)
  | .deleteVm cid => some (.vm, cid)
  | .deleteDisk cid => some (.disk, cid)
  | _ => none

/-- The error by which a cloud tells that it does not have what it is to delete. -/
def absence : CloudCall → Option CloudErrorKind
  | .deleteStemcell _ => some .stemcellNotFound
  | .deleteVm _ => some .vmNotFound
  | .deleteDisk _ => some .diskNotFound
  | _ => none

end CloudCall

namespace Holdings

/-- What is held after a call that was served. -/
def after (held : Holdings) (call : CloudCall) (answer : call.Answer) : Holdings :=
  match call.created answer, call.deleted with
  | some (kind, cid), _ => held.add kind cid
  | none, some (kind, cid) => held.drop kind cid
  | none, none => held

/-- What was held at some time, after a call that was served. -/
def everAfter (seen : Holdings) (call : CloudCall) (answer : call.Answer) : Holdings :=
  match call.created answer with
  | some (kind, cid) => seen.add kind cid
  | none => seen

theorem subset_everAfter (seen : Holdings) (call : CloudCall) (answer : call.Answer)
    (kind : Resource) : seen kind ⊆ seen.everAfter call answer kind := by
  intro cid member
  cases created : call.created answer with
  | none => simpa [everAfter, created] using member
  | some resource =>
    simp only [everAfter, created]
    exact mem_add_of_mem member

/-- What a call does not delete is still there after it. -/
theorem mem_after {held : Holdings} {call : CloudCall} {answer : call.Answer} {kind : Resource}
    {cid : String} (member : cid ∈ held kind) (other : call.deleted ≠ some (kind, cid)) :
    cid ∈ held.after call answer kind := by
  cases created : call.created answer with
  | some resource =>
    simp only [after, created]
    exact mem_add_of_mem member
  | none =>
    cases deleted : call.deleted with
    | none => simpa [after, created, deleted] using member
    | some resource =>
      simp only [after, created, deleted, drop]
      split
      case isTrue same =>
        refine Finset.mem_erase.mpr ⟨fun alike => other ?_, member⟩
        rw [deleted, same, alike]
      case isFalse => exact member

/-- A resource that the call is about is not there. -/
def Lacks (held : Holdings) : CloudCall → Prop
  | .createStemcell .. | .hasVm _ => False
  | .deleteStemcell cid => cid ∉ held .stemcell
  | .createVm _ stemcell _ disks _ _ =>
    stemcell ∉ held .stemcell ∨ ∃ disk ∈ disks, disk ∉ held .disk
  | .deleteVm cid | .setVmMetadata cid _ => cid ∉ held .vm
  | .createDisk _ _ vm => vm ∉ held .vm
  | .deleteDisk cid => cid ∉ held .disk
  | .attachDisk vm disk | .detachDisk vm disk => vm ∉ held .vm ∨ disk ∉ held .disk

end Holdings

/-- A request and the reply that it got. -/
structure Exchange where
  request : Request
  reply : request.Reply

/-- A workspace without a document counts as one whose document is fresh and has no director yet. -/
structure Surroundings where
  doc : Document
  cloud : Holdings
  /-- Cids that were taken at some time; a cloud gives none of them to a new resource. -/
  seen : Holdings
  /-- Identifiers that were handed out at some time. -/
  ids : Finset String
  /-- Calls to the cloud and the agent and attempts to save, the first one of the run first. -/
  calls : List Exchange

namespace Surroundings

/-- A workspace and a cloud in which nothing was ever done. No cid is the empty text. -/
def empty : Surroundings where
  doc := .fresh ""
  cloud := fun _ => ∅
  seen := fun _ => {""}
  ids := ∅
  calls := []

/-- The same at the beginning of a run. -/
def begin (s : Surroundings) : Surroundings := { s with calls := [] }

def noted (s : Surroundings) (e : Exchange) : Surroundings := { s with calls := s.calls ++ [e] }

def served (s : Surroundings) (call : CloudCall) (answer : call.Answer) : Surroundings :=
  { s with
    cloud := s.cloud.after call answer
    seen := s.seen.everAfter call answer
    calls := s.calls ++ [⟨.cloud call, .ok answer⟩] }

/-- With the director id that the document has when it is looked at. -/
def loaded (s : Surroundings) (directorId : String) : Surroundings :=
  { s with doc := { s.doc with directorId := directorId } }

def saved (s : Surroundings) (doc : Document) : Surroundings :=
  { s with doc := doc, calls := s.calls ++ [⟨.save doc, .ok ()⟩] }

def issued (s : Surroundings) (id : String) : Surroundings := { s with ids := insert id s.ids }

/-- A cid of this kind was never taken before. -/
def Unused (s : Surroundings) (call : CloudCall) (answer : call.Answer) : Prop :=
  ∀ kind cid, call.created answer = some (kind, cid) → cid ∉ s.seen kind

end Surroundings

/-- An agent that is asked about the jobs reports that they run. -/
def AgentCall.Running : (call : AgentCall) → call.Answer → Prop
  | .getState, state => AgentState.isRunning state = true
  | _, _ => True

/-- What may go wrong in some surroundings. -/
structure Conduct where
  /-- Which requests may fail, depending on what the cloud holds. -/
  mayFail : Holdings → Request → Prop
  /-- A cloud that cannot find what it is to delete does not have it. -/
  honest : Prop
  /-- Jobs that were asked about run. -/
  running : Prop

namespace Conduct

/-- Everything may fail at any time, for whatever reason the cloud chooses to give. -/
def any : Conduct := ⟨fun _ _ => True, False, False⟩

/-- Everything but the store may fail, and the cloud is honest about what is not there. -/
def reliableStore : Conduct where
  mayFail _ r := match r with
    | .load | .save _ => False
    | _ => True
  honest := True
  running := False

/-- Nothing fails but a call about a resource that is not there, and the jobs run. -/
def smooth : Conduct where
  mayFail held r := match r with
    | .cloud call => held.Lacks call
    | _ => False
  honest := True
  running := True

/-- The replies that surroundings in a state may give, and what they do to it. -/
def Answers (c : Conduct) : Behaviour Effects Surroundings := fun s r reply t =>
  match r, reply with
  | .cloud call, .ok answer => s.Unused call answer ∧ t = s.served call answer
  | .cloud call, .error error =>
    c.mayFail s.cloud (.cloud call) ∧
      (c.honest → ∀ kind cid, call.deleted = some (kind, cid) → call.absence = some error.kind →
        cid ∉ s.cloud kind) ∧
      t = s.noted ⟨.cloud call, .error error⟩
  | .agent call, .ok answer =>
    (c.running → call.Running answer) ∧ t = s.noted ⟨.agent call, .ok answer⟩
  | .agent call, .error failure =>
    c.mayFail s.cloud (.agent call) ∧ t = s.noted ⟨.agent call, .error failure⟩
  | .load, .ok doc =>
    ∃ id, (s.doc.directorId ≠ "" → id = s.doc.directorId) ∧ doc = (s.loaded id).doc ∧
      t = s.loaded id
  | .load, .error failure =>
    c.mayFail s.cloud .load ∧ (∃ fault, failure = .storage fault) ∧ t = s
  | .save doc, .ok _ => t = s.saved doc
  | .save doc, .error failure =>
    c.mayFail s.cloud (.save doc) ∧ (∃ fault, failure = .storage fault) ∧
      t = s.noted ⟨.save doc, .error failure⟩
  | .render _, .ok _ => t = s
  | .render call, .error _ => c.mayFail s.cloud (.render call) ∧ t = s
  | .connect _, .ok _ => t = s
  | .connect options, .error _ => c.mayFail s.cloud (.connect options) ∧ t = s
  | .close _, .ok _ => t = s
  | .close session, .error _ => c.mayFail s.cloud (.close session) ∧ t = s
  | .forward .., _ => t = s
  | .report _, _ => t = s
  | .now, _ => t = s
  | .sleep _, _ => t = s
  | .freshId, id => id ≠ "" ∧ id ∉ s.ids ∧ t = s.issued id

section Ordinary

/-!
Replies that surroundings can give.
-/

variable (c : Conduct) (s : Surroundings)

theorem answers_load (id : String) (kept : s.doc.directorId ≠ "" → id = s.doc.directorId) :
    c.Answers s .load (.ok (s.loaded id).doc) (s.loaded id) := ⟨id, kept, rfl, rfl⟩

theorem answers_save (doc : Document) : c.Answers s (.save doc) (.ok ()) (s.saved doc) := rfl

theorem answers_freshId {id : String} (named : id ≠ "") (new : id ∉ s.ids) :
    c.Answers s .freshId id (s.issued id) := ⟨named, new, rfl⟩

theorem answers_report (notice : Notice) : c.Answers s (.report notice) () s := rfl

theorem answers_cloud (call : CloudCall) (answer : call.Answer) (unused : s.Unused call answer) :
    c.Answers s (.cloud call) (.ok answer) (s.served call answer) := ⟨unused, rfl⟩

/-- A call that deletes nothing may fail for whatever reason. -/
theorem answers_refused {call : CloudCall} (error : CloudError)
    (may : c.mayFail s.cloud (.cloud call)) (other : call.deleted = none) :
    c.Answers s (.cloud call) (.error error) (s.noted ⟨.cloud call, .error error⟩) := by
  refine ⟨may, fun _ => ?_, rfl⟩
  simp [other]

end Ordinary

end Conduct

/-- What an exchange does to its surroundings, whatever may go wrong in them. -/
inductive Surroundings.Step (s : Surroundings) : Request → Surroundings → Prop
  | same {r : Request} : Step s r s
  | told {call : AgentCall} {reply : Except Failure call.Answer} :
      Step s (.agent call) (s.noted ⟨.agent call, reply⟩)
  | served {call : CloudCall} {answer : call.Answer} (unused : s.Unused call answer) :
      Step s (.cloud call) (s.served call answer)
  | refused {call : CloudCall} {error : CloudError} :
      Step s (.cloud call) (s.noted ⟨.cloud call, .error error⟩)
  | loaded {id : String} (kept : s.doc.directorId ≠ "" → id = s.doc.directorId) :
      Step s .load (s.loaded id)
  | saved {doc : Document} : Step s (.save doc) (s.saved doc)
  | unsaved {doc : Document} {failure : Failure} :
      Step s (.save doc) (s.noted ⟨.save doc, .error failure⟩)
  | issued {id : String} (named : id ≠ "") (new : id ∉ s.ids) : Step s .freshId (s.issued id)

theorem Surroundings.Step.calls {s t : Surroundings} {r : Request} (step : s.Step r t) :
    s.calls <+: t.calls := by
  cases step with
  | same | loaded | issued => exact List.prefix_refl _
  | _ => exact List.prefix_append _ _

theorem Conduct.Answers.step {c : Conduct} {s t : Surroundings} {r : Request} {reply : r.Reply}
    (answered : c.Answers s r reply t) : s.Step r t := by
  unfold Conduct.Answers at answered
  split at answered
  case h_1 =>
    rw [answered.2]
    exact .served answered.1
  case h_2 =>
    rw [answered.2.2]
    exact .refused
  case h_3 =>
    rw [answered.2]
    exact .told
  case h_4 =>
    rw [answered.2]
    exact .told
  case h_5 =>
    obtain ⟨id, kept, -, rfl⟩ := answered
    exact .loaded kept
  case h_7 =>
    rw [answered]
    exact .saved
  case h_8 =>
    rw [answered.2.2]
    exact .unsaved
  case h_19 =>
    rw [answered.2.2]
    exact .issued answered.1 answered.2.1
  all_goals
    obtain rfl : t = s := by simp_all
    exact .same

/-- An exchange is noted as it was, or is not noted. -/
theorem Conduct.Answers.noted {c : Conduct} {s t : Surroundings} {r : Request} {reply : r.Reply}
    (answered : c.Answers s r reply t) :
    t.calls = s.calls ∨ t.calls = s.calls ++ [⟨r, reply⟩] := by
  unfold Conduct.Answers at answered
  split at answered
  case h_1 =>
    rw [answered.2]
    exact .inr rfl
  case h_2 =>
    rw [answered.2.2]
    exact .inr rfl
  case h_3 =>
    rw [answered.2]
    exact .inr rfl
  case h_4 =>
    rw [answered.2]
    exact .inr rfl
  case h_5 =>
    obtain ⟨id, -, -, rfl⟩ := answered
    exact .inl rfl
  case h_7 =>
    rw [answered]
    exact .inr rfl
  case h_8 =>
    rw [answered.2.2]
    exact .inr rfl
  case h_19 =>
    rw [answered.2.2]
    exact .inl rfl
  all_goals
    obtain rfl : t = s := by simp_all
    exact .inl rfl

theorem Program.Reaches.calls {α : Type} {c : Conduct} {p left : Program Effects α}
    {s t : Surroundings} (reached : p.Reaches c.Answers s left t) : s.calls <+: t.calls := by
  induction reached with
  | here => exact List.prefix_refl _
  | next answered _ ih => exact answered.step.calls.trans ih

end Reconciler
