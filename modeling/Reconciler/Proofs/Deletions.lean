import Reconciler.Proofs.Footprints

/-!
Deletion steps. A resource is deleted in the cloud and then forgotten. Afterwards the cloud does not
have it, if it is honest about what it cannot find; and a deletion that failed for another reason
has changed nothing.
-/
namespace Reconciler

variable {c : Conduct} {g : Guard} {s t : Surroundings} {kind : Resource} {cid : String}

/-- The same but for one resource, which may be gone from the cloud. -/
structure Shrunk (kind : Resource) (cid : String) (s t : Surroundings) : Prop where
  doc : t.doc = s.doc
  seen : t.seen = s.seen
  ids : t.ids = s.ids
  calls : ∃ e : Exchange, t.calls = s.calls ++ [e] ∧ e.made = none ∧ e.attached = none
  others : ∀ k, k ≠ kind → t.cloud k = s.cloud k
  there : t.cloud kind = s.cloud kind ∨ t.cloud kind = (s.cloud kind).erase cid

namespace Shrunk

theorem machine (h : Shrunk .vm cid s t) :
    t.machine = { s.machine with there := t.cloud .vm } := by
  obtain ⟨e, calls, made, -⟩ := h.calls
  simp [Surroundings.machine, h.doc, h.seen, calls, made]

theorem disks (h : Shrunk .disk cid s t) : t.disks = { s.disks with there := t.cloud .disk } := by
  simp [Surroundings.disks, h.doc, h.seen]

theorem attachments (h : Shrunk kind cid s t) : t.attachments = s.attachments := by
  obtain ⟨e, calls, -, attached⟩ := h.calls
  simp [Surroundings.attachments, calls, attached]

theorem stemcells (h : Shrunk .stemcell cid s t) :
    t.stemcells = { s.stemcells with there := t.cloud .stemcell } := by
  simp [Surroundings.stemcells, h.doc, h.seen]

theorem otherStemcells (h : Shrunk kind cid s t) (other : .stemcell ≠ kind) :
    t.stemcells = s.stemcells := by
  simp [Surroundings.stemcells, h.doc, h.seen, h.others _ other]

end Shrunk

/-- How an attempt to delete a resource in the cloud ends. -/
def Removal {α : Type} (c : Conduct) (kind : Resource) (cid : String) (gone : CloudErrorKind)
    (s : Surroundings) : Except CloudError α → Surroundings → Prop
  | .ok _, t => Shrunk kind cid s t ∧ t.cloud kind = (s.cloud kind).erase cid
  | .error e, t => Shrunk kind cid s t ∧ Frame [] s t ∧ t.cloud = s.cloud ∧
      (e.kind = gone → c.honest → cid ∉ s.cloud kind) ∧ (cid ∈ s.cloud kind → c.Troubled)

/-- A call that deletes one resource and does nothing else. -/
structure CloudCall.Deletes (call : CloudCall) (kind : Resource) (cid : String)
    (gone : CloudErrorKind) : Prop where
  deleted : call.deleted = some (kind, cid)
  created : ∀ answer, call.created answer = none
  absence : call.absence = some gone
  lacks : ∀ held : Holdings, held.Lacks call → cid ∉ held kind
  made : ∀ reply, Exchange.made ⟨.cloud call, reply⟩ = none
  attached : ∀ reply, Exchange.attached ⟨.cloud call, reply⟩ = none

namespace CloudCall

theorem deleteVm_deletes (cid : String) : (deleteVm cid).Deletes .vm cid .vmNotFound :=
  ⟨rfl, fun _ => rfl, rfl, fun _ => id, fun _ => rfl, fun _ => rfl⟩

theorem deleteDisk_deletes (cid : String) : (deleteDisk cid).Deletes .disk cid .diskNotFound :=
  ⟨rfl, fun _ => rfl, rfl, fun _ => id, fun _ => rfl, fun _ => rfl⟩

theorem deleteStemcell_deletes (cid : String) :
    (deleteStemcell cid).Deletes .stemcell cid .stemcellNotFound :=
  ⟨rfl, fun _ => rfl, rfl, fun _ => id, fun _ => rfl, fun _ => rfl⟩

end CloudCall

namespace Engine

theorem removal_meets {call : CloudCall} {gone : CloudErrorKind}
    (deletes : call.Deletes kind cid gone) (allowed : g s (.cloud call)) :
    (tryCloud call).Meets c.Answers g.safe (Removal c kind cid gone s) s := by
  refine tryCloud_meets (fun _ => allowed) (fun answer _ => ?_) fun error may honest => ?_
  · have cloud : (s.served call answer).cloud = s.cloud.drop kind cid := by
      simp [Surroundings.served, Holdings.after, deletes.created, deletes.deleted]
    have there : (s.served call answer).cloud kind = (s.cloud kind).erase cid := by
      rw [cloud, Holdings.drop_same]
    refine ⟨⟨rfl, ?_, rfl, ⟨_, rfl, deletes.made _, deletes.attached _⟩, ?_, .inr there⟩, there⟩
    · simp [Surroundings.served, Holdings.everAfter, deletes.created]
    · intro k other
      rw [cloud, Holdings.drop_other _ _ other]
  · have noted := deletes.made (.error error)
    have told := deletes.attached (.error error)
    refine ⟨⟨rfl, rfl, rfl, ⟨_, rfl, noted, told⟩, fun _ _ => rfl, .inl rfl⟩,
      Frame.noted noted told, rfl, fun same truly => ?_, fun present => ?_⟩
    · exact honest truly kind cid deletes.deleted (by rw [deletes.absence, same])
    · exact .ofCall may fun lacks => deletes.lacks _ lacks present

/-- A deletion step: what is forgotten is forgotten in surroundings without the resource, unless
they lie about it. -/
theorem Meets.deletion {gone : CloudErrorKind} {stage : Stage} {name : String}
    {deletion : Program Effects (Except CloudError Unit)} {reason : Failure → String}
    {context : String} {forget : Engine Unit} {ok : Surroundings → Prop}
    {err : Failure → Surroundings → Prop}
    (deleted : deletion.Meets c.Answers g.safe (Removal c kind cid gone s) s)
    (forgotten : ∀ t, Shrunk kind cid s t →
      (c.honest → t.cloud kind = (s.cloud kind).erase cid) →
      Meets c g t forget (fun _ => ok) fun e u => e.cloudKind = none ∧ err e u)
    (failed : ∀ e t, Frame [] s t → (cid ∈ s.cloud kind → c.Troubled) → err e t) :
    Meets c g s (Engine.performStep stage name (Reconciler.skipIfGone gone reason
      (Reconciler.deleteThenForget deletion gone context forget)))
      (fun _ => ok) err := by
  refine Meets.performStep (Meets.skipIfGone ?_)
  refine Meets.deleteThenForget deleted (fun t removed => ?_) (fun error t removed isGone => ?_)
    fun error t removed other => ?_
  · apply (forgotten t removed.1 fun _ => removed.2).weaken (fun _ _ h => h)
    intro e u h
    simpa [h.1] using h.2
  · have erased : c.honest → t.cloud kind = (s.cloud kind).erase cid := fun truly => by
      rw [removed.2.2.1, Finset.erase_eq_of_notMem (removed.2.2.2.1 isGone truly)]
    refine (forgotten t removed.1 erased).weaken (fun _ u h => ?_) fun e u h => ?_
    · simpa [Failure.cloudKind, Failure.root, isGone] using h
    · simpa [h.1] using h.2
  · have same : (Failure.within context (.cloud error)).cloudKind ≠ some gone := by
      simpa [Failure.cloudKind, Failure.root] using other
    rw [if_neg same]
    exact failed _ t removed.2.1 removed.2.2.2.2

end Engine

end Reconciler
