import Reconciler.Proofs.Parts
import Reconciler.Workspace.Repository

/-!
Runs of the repositories. A look at the document changes no part of the workspace, and a change
saves what its edit makes of the document as it is then. Only a store can make either fail.
-/
namespace Reconciler

variable {c : Conduct} {g : Guard} {s : Surroundings} {α : Type}

namespace Document

variable {doc new : Document} {id : String}

theorem eq_of_pointToDisk (pointed : doc.pointToDisk id = .ok new) :
    id ∈ doc.disks.map (·.id) ∧ new = { doc with currentDiskId := id } := by
  unfold pointToDisk at pointed
  split at pointed
  case isTrue recorded =>
    cases pointed
    simpa using recorded
  case isFalse => cases pointed

theorem eq_of_pointToStemcell (pointed : doc.pointToStemcell id = .ok new) :
    id ∈ doc.stemcells.map (·.id) ∧ new = { doc with currentStemcellId := id } := by
  unfold pointToStemcell at pointed
  split at pointed
  case isTrue recorded =>
    cases pointed
    simpa using recorded
  case isFalse => cases pointed

theorem eq_of_pointToReleases {ids : List String} (pointed : doc.pointToReleases ids = .ok new) :
    (∀ id ∈ ids, id ∈ doc.releases.map (·.id)) ∧ new = { doc with currentReleaseIds := ids } := by
  unfold pointToReleases at pointed
  split at pointed
  case h_1 => cases pointed
  case h_2 recorded =>
    cases pointed
    simpa using recorded

end Document

theorem Conduct.StoreFailure.within {failure : Failure} (h : c.StoreFailure failure)
    (context : String) : c.StoreFailure (.within context failure) := h

theorem Engine.Meets.load {ok : Document → Surroundings → Prop}
    {err : Failure → Surroundings → Prop}
    (seen : ∀ t, Frame [] s t → ok t.doc t) (lost : ∀ e, c.StoreFailure e → err e s) :
    Meets c g s Engine.load ok err := by
  intro reply t answered
  refine ⟨fun deed => (deed trivial).elim, ?_⟩
  match reply with
  | .ok doc =>
    obtain ⟨id, kept, rfl, rfl⟩ := answered
    exact seen _ (Frame.loaded kept)
  | .error failure =>
    obtain ⟨may, ⟨fault, rfl⟩, rfl⟩ := answered
    exact lost _ ⟨⟨fault, rfl⟩, t.cloud, .load, .inl rfl, may⟩

theorem Engine.Meets.save {doc : Document} {ok : Unit → Surroundings → Prop}
    {err : Failure → Surroundings → Prop} (allowed : g s (.save doc)) (saved : ok () (s.saved doc))
    (lost : ∀ e t, c.StoreFailure e → Frame [] s t → err e t) :
    Meets c g s (Engine.save doc) ok err := by
  intro reply t answered
  refine ⟨fun _ => allowed, ?_⟩
  match reply with
  | .ok () =>
    obtain rfl := answered
    exact saved
  | .error failure =>
    obtain ⟨may, ⟨fault, rfl⟩, rfl⟩ := answered
    exact lost _ _ ⟨⟨fault, rfl⟩, s.cloud, .save doc, .inr ⟨doc, rfl⟩, may⟩ (Frame.noted rfl rfl)

namespace Repository

open Engine

variable {ok : α → Surroundings → Prop} {err : Failure → Surroundings → Prop}

theorem look_meets {Q : Document → Surroundings → Prop} (seen : ∀ t, Frame [] s t → Q t.doc t)
    (lost : ∀ e, c.StoreFailure e → err e s) : Meets c g s look Q err :=
  Meets.within (Meets.load seen fun _ h => lost _ (h.within _))

/-- A question about the document. -/
theorem read_meets {f : Document → α} (seen : ∀ t, Frame [] s t → ok (f t.doc) t)
    (lost : ∀ e, c.StoreFailure e → err e s) :
    Meets c g s (do return f (← look)) ok err :=
  Meets.bind (look_meets (Q := fun doc t => ok (f doc) t) seen lost) fun _ _ h => Meets.pure h

/-- A question whose answer is the same after any look at the document. -/
theorem ask_meets {f : Document → α} {context : String} {t : Surroundings} (before : Frame [] s t)
    (steady : ∀ u, Frame [] s u → f u.doc = f s.doc) :
    Meets c g t (within context (do return f (← look))) (fun a u => a = f s.doc ∧ Frame [] s u)
      fun _ u => c.StoreFails ∧ Frame [] s u := by
  apply Meets.inContext
  apply read_meets
  · intro u frame
    have after := before.trans frame
    exact ⟨steady u after, after⟩
  · exact fun _ lost => ⟨lost.2, before⟩

/-- All records of a kind but the current one. -/
theorem unused_meets {ρ : Type} [Recorded ρ] {context context' : String} {all : Document → List ρ}
    {current : Document → Option ρ} (shelf : Surroundings → Shelf ρ)
    (lists : ∀ t, all t.doc = (shelf t).records) (points : ∀ t, current t.doc = (shelf t).current)
    (steady : ∀ t, Frame [] s t → shelf t = shelf s) :
    Meets c g s (do
      let records ← within context (do return all (← look))
      let now ← within context' (do return current (← look))
      return records.filter fun r => now.all (Recorded.recordId · != Recorded.recordId r))
      (fun unused t => unused = (shelf s).records.filter (fun r => (shelf s).current.all
        (Recorded.recordId · != Recorded.recordId r)) ∧ Frame [] s t)
      fun _ t => c.StoreFails ∧ Frame [] s t := by
  apply Meets.bind (ask_meets (Frame.refl _ s) fun t frame => ?_)
  · intro records t listed
    obtain ⟨rfl, before⟩ := listed
    apply Meets.bind (ask_meets before fun u frame => ?_)
    · intro now u looked
      obtain ⟨rfl, frame⟩ := looked
      rw [lists, points]
      exact Meets.pure ⟨rfl, frame⟩
    · rw [points, points, steady u frame]
  · rw [lists, lists, steady t frame]

/-- What the edit does comes before the save. -/
theorem change_meets {edit : Document → Engine (α × Document)}
    (edited : ∀ m, Frame [] s m → Meets c g m (edit m.doc)
      (fun result t => g t (.save result.2) ∧ ok result.1 (t.saved result.2) ∧
        ∀ e u, c.StoreFailure e → Frame [] t u → err e u) err)
    (lost : ∀ e, c.StoreFailure e → err e s) : Meets c g s (change edit) ok err := by
  unfold change
  refine Meets.bind (Q := fun doc t => Frame [] s t ∧ doc = t.doc)
    (look_meets (fun t frame => ⟨frame, rfl⟩) lost) ?_
  intro _ m looked
  obtain ⟨frame, rfl⟩ := looked
  apply Meets.bind (edited m frame)
  rintro ⟨a, doc⟩ t ⟨allowed, saved, lost⟩
  refine Meets.bind (Q := fun _ => ok a) (Meets.within ?_) fun _ _ h => Meets.pure h
  exact Meets.save allowed saved fun e u h => lost _ u (h.within _)

theorem update_meets {edit : Document → Document} {ok : Unit → Surroundings → Prop}
    (allowed : ∀ m, Frame [] s m → g m (.save (edit m.doc)))
    (saved : ∀ m, Frame [] s m → ok () (m.saved (edit m.doc)))
    (lost : ∀ e t, c.StoreFailure e → Frame [] s t → err e t) :
    Meets c g s (update edit) ok err := by
  refine change_meets (fun m frame => Meets.pure ⟨allowed m frame, saved m frame, ?_⟩)
    fun e h => lost e s h (Frame.refl _ _)
  exact fun e u h later => lost e u h (frame.trans later)

/-- A refused change saves nothing. -/
theorem tryUpdate_meets {edit : Document → Except StateFault Document}
    {ok : Unit → Surroundings → Prop}
    (edited : ∀ m doc, Frame [] s m → edit m.doc = .ok doc → g m (.save doc) ∧ ok () (m.saved doc))
    (refused : ∀ m fault, Frame [] s m → edit m.doc = .error fault → err (.invalidState fault) m)
    (lost : ∀ e t, c.StoreFailure e → Frame [] s t → err e t) :
    Meets c g s (tryUpdate edit) ok err := by
  refine change_meets (fun m frame => ?_) fun e h => lost e s h (Frame.refl _ _)
  refine Meets.bind (Q := fun doc t => edit m.doc = .ok doc ∧ t = m) (Meets.consistent
    (fun doc h => ⟨h, rfl⟩) fun fault h => refused m fault frame h) ?_
  rintro doc m ⟨h, rfl⟩
  have := edited m doc frame h
  exact Meets.pure ⟨this.1, this.2, fun e u h later => lost e u h (frame.trans later)⟩

/-- A change that is not refused after any look at the document. -/
theorem accepted_meets {edit : Document → Except StateFault Document}
    {ok : Unit → Surroundings → Prop}
    (accepted : ∀ m, Frame [] s m →
      ∃ doc, edit m.doc = .ok doc ∧ g m (.save doc) ∧ ok () (m.saved doc))
    (lost : ∀ e t, c.StoreFailure e → Frame [] s t → err e t) :
    Meets c g s (tryUpdate edit) ok err := by
  refine tryUpdate_meets (fun m doc frame edited => ?_) (fun m fault frame refused => ?_) lost
  · obtain ⟨_, same, saved⟩ := accepted m frame
    cases edited.symm.trans same
    exact saved
  · obtain ⟨_, same, -⟩ := accepted m frame
    cases refused.symm.trans same

/-- A record that is made under a fresh id. -/
theorem recordFresh_meets (make : String → α) (add : String → Document → Document)
    (saved : ∀ m id, Frame [] s m → id ≠ "" → id ∉ s.ids → id ∈ m.ids →
      g m (.save (add id m.doc)) ∧ ok (make id) (m.saved (add id m.doc)))
    (lost : ∀ e t, c.StoreFailure e → Frame [] s t → err e t) :
    Meets c g s (change fun doc => do
      let id ← Engine.freshId
      return (make id, add id doc)) ok err := by
  refine change_meets (fun m frame => ?_) fun e h => lost e s h (Frame.refl _ _)
  refine Meets.bind (Q := fun id t => id ≠ "" ∧ id ∉ m.ids ∧ t = m.issued id)
    (Meets.freshId fun id named new => ⟨named, new, rfl⟩) ?_
  intro id _ issued
  obtain ⟨named, new, rfl⟩ := issued
  have issued : Frame [] s (m.issued id) := frame.trans (Frame.issued named new)
  have := saved (m.issued id) id issued named (fun old => new (frame.ids old))
    (Finset.mem_insert_self _ _)
  exact Meets.pure ⟨this.1, this.2, fun e u h later => lost e u h (issued.trans later)⟩

end Repository

end Reconciler
