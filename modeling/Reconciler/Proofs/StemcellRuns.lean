import Reconciler.Proofs.Deletions

/-!
Runs of what is done with stemcells, each as a change of the stemcells of a workspace. A stemcell
is uploaded once, promoted by name and version, and deleted by its record.
-/
namespace Reconciler

open Engine Repository

variable {c : Conduct} {g : Guard} {s t : Surroundings}

/-- The record of a stemcell that an upload returns: one that was there or one that was made. -/
structure StemcellUploaded (name version : String) (record : StemcellRecord)
    (s t : Surroundings) : Prop where
  named : record.name = name ∧ record.version = version
  change : (s.doc.findStemcell name version = some record ∧ t.stemcells = s.stemcells) ∨
    (s.doc.findStemcell name version = none ∧ t.stemcells = s.stemcells.add record ∧
      record.id ≠ "" ∧ record.id ∉ s.ids ∧ record.id ∈ t.ids ∧ record.cid ∉ s.stemcells.seen)

/-- Why an upload can fail: trouble before the cloud has made anything, a store that fails, or a
recorded cid that the cloud gives again. -/
def StemcellNotUploaded (c : Conduct) (s t : Surroundings) : Prop :=
  (t.stemcells = s.stemcells ∧ c.Troubled) ∨ c.StoreFails ∨
    ∃ record ∈ s.stemcells.records, record.cid ∉ s.stemcells.seen

namespace Document

theorem findStemcell_eq {name version : String} {doc : Document} {record : StemcellRecord}
    (found : doc.findStemcell name version = some record) :
    record ∈ doc.stemcells ∧ record.name = name ∧ record.version = version := by
  refine ⟨List.mem_of_find?_eq_some found, ?_⟩
  simpa using List.find?_some found

/-- Pointing to a recorded stemcell is not refused. -/
theorem pointToStemcell_eq {doc : Document} {record : StemcellRecord}
    (recorded : record ∈ doc.stemcells) :
    doc.pointToStemcell record.id = .ok { doc with currentStemcellId := record.id } := by
  have found : doc.stemcells.any (·.id == record.id) = true :=
    List.any_eq_true.mpr ⟨record, recorded, by simp⟩
  simp [pointToStemcell, found]

/-- A stemcell that is not recorded collides only with a record of its cid. -/
theorem stemcellCollision_cid {name version cid : String} {doc : Document} {fault : StateFault}
    (absent : doc.findStemcell name version = none)
    (collision : doc.stemcellCollision name version cid = some fault) :
    ∃ record ∈ doc.stemcells, record.cid = cid := by
  obtain ⟨record, member, told⟩ := List.exists_of_findSome?_eq_some collision
  refine ⟨record, member, ?_⟩
  have different := List.find?_eq_none.mp absent record member
  split at told
  case isTrue same => simp [same] at different
  case isFalse =>
    split at told
    case isTrue same => exact same
    case isFalse => cases told

end Document

/-- What is found in the document depends on the stemcells alone. -/
theorem Surroundings.findStemcell_congr {name version : String}
    (same : t.stemcells = s.stemcells) :
    t.doc.findStemcell name version = s.doc.findStemcell name version := by
  change t.stemcells.records.find? _ = s.stemcells.records.find? _
  rw [same]

/-- An uploaded stemcell is found by its name and version. -/
theorem StemcellUploaded.found {name version : String} {record : StemcellRecord}
    (uploaded : StemcellUploaded name version record s t) :
    t.doc.findStemcell record.name record.version = some record := by
  obtain ⟨⟨rfl, rfl⟩, change⟩ := uploaded
  obtain ⟨found, same⟩ | ⟨absent, added, -⟩ := change
  · rw [Surroundings.findStemcell_congr same, found]
  · have absent' : s.stemcells.records.find?
        (fun r => r.name == record.name && r.version == record.version) = none := absent
    change t.stemcells.records.find? _ = some record
    rw [added, Shelf.add, List.find?_append, absent']
    simp

namespace Stemcells

theorem save_meets {name version cid : String}
    (absent : s.doc.findStemcell name version = none) :
    Meets c .none s (save name version cid)
      (fun record t => record.name = name ∧ record.version = version ∧ record.cid = cid ∧
        record.id ≠ "" ∧ record.id ∉ s.ids ∧ record.id ∈ t.ids ∧
        t.stemcells = { s.stemcells with records := s.stemcells.records ++ [record] })
      fun _ _ => c.StoreFails ∨ ∃ record ∈ s.stemcells.records, record.cid = cid := by
  refine change_meets (fun m frame => ?_) fun e lost => .inl lost.2
  have stemcells := frame.stemcells
  split
  case h_1 fault collision =>
    have absent' : m.doc.findStemcell name version = none :=
      (Surroundings.findStemcell_congr stemcells).trans absent
    obtain ⟨record, member, same⟩ := Document.stemcellCollision_cid absent' collision
    have member' : record ∈ s.stemcells.records := by
      rw [← stemcells]
      exact member
    exact Meets.throw (.inr ⟨record, member', same⟩)
  case h_2 =>
    refine Meets.bind (Q := fun id t => id ≠ "" ∧ id ∉ m.ids ∧ t = m.issued id)
      (Meets.freshId fun id named new => ⟨named, new, rfl⟩) ?_
    rintro id _ ⟨named, new, rfl⟩
    refine Meets.pure ⟨trivial, ?_, fun e u lost _ => .inl lost.2⟩
    refine ⟨rfl, rfl, rfl, named, fun old => new (frame.ids old), Finset.mem_insert_self _ _, ?_⟩
    rw [← stemcells]
    rfl

/-- The call that makes a stemcell, which does not need anything to be there. -/
theorem createStemcell_meets {path context : String} {properties : Properties}
    (before : Frame [] s t) :
    Meets c .none t (within context (cloud (.createStemcell path properties)))
      (fun (cid : String) u => cid ∉ s.stemcells.seen ∧ u.ids = t.ids ∧ u.stemcells =
        { s.stemcells with
          there := insert cid s.stemcells.there
          seen := insert cid s.stemcells.seen })
      fun _ => StemcellNotUploaded c s := by
  apply Meets.inContext
  apply Meets.cloud (fun _ => trivial)
  · intro (cid : String) unused
    rw [← before.stemcells]
    refine ⟨unused .stemcell cid rfl, rfl, ?_⟩
    simp [Surroundings.stemcells, Surroundings.served, Holdings.after, Holdings.everAfter,
      CloudCall.created]
  · exact fun error may => .inl ⟨before.stemcells, .ofCall may id⟩

/-- A stemcell is made only when its name and version are not recorded. -/
theorem upload_meets {extracted : ExtractedStemcell} {stage : Stage} :
    Meets c .none s (upload extracted stage)
      (fun record t =>
        StemcellUploaded extracted.manifest.name extracted.manifest.version record s t)
      fun _ t => StemcellNotUploaded c s t := by
  let name := extracted.manifest.name
  let version := extracted.manifest.version
  unfold upload
  refine Meets.bind (Q := fun result t => StemcellUploaded name version result.1 s t)
    (Meets.step ?_) fun _ _ h => Meets.pure h
  refine Meets.seq (ask_meets (Frame.refl _ s) fun t frame => ?_) ?_ ?_
  · exact Surroundings.findStemcell_congr frame.stemcells
  · exact fun _ t lost => .inr (.inl lost.1)
  intro found t looked
  obtain ⟨same, before⟩ := looked
  cases found with
  | some record =>
    have named := (Document.findStemcell_eq same.symm).2
    exact Meets.pure ⟨named, .inl ⟨same.symm, before.stemcells⟩⟩
  | none =>
    apply Meets.bind (createStemcell_meets before)
    intro cid u made
    obtain ⟨unused, ids, grown⟩ := made
    have absent : u.doc.findStemcell name version = none := by
      change u.stemcells.records.find? _ = none
      rw [grown]
      exact same.symm
    apply Meets.seq (Meets.inContext (save_meets absent))
    · rintro _ v (fails | ⟨record, member, alike⟩)
      · exact .inr (.inl fails)
      · rw [grown] at member
        exact .inr (.inr ⟨record, member, alike ▸ unused⟩)
    · intro record v saved
      obtain ⟨named, versioned, rfl, nonempty, newId, known, stemcells⟩ := saved
      rw [ids] at newId
      refine Meets.pure ⟨⟨named, versioned⟩, .inr ⟨same.symm, ?_, nonempty, ?_, known, unused⟩⟩
      · rw [stemcells, grown]
        rfl
      · exact fun old => newId (before.ids old)

theorem findCurrent_meets : Meets c g s findCurrent
    (fun found t => found = s.stemcells.current ∧ Frame [] s t)
    fun _ t => c.StoreFails ∧ Frame [] s t := by
  apply ask_meets (Frame.refl _ s)
  intro t frame
  change t.stemcells.current = s.stemcells.current
  rw [frame.stemcells]

/-- The records that are not the current one. -/
theorem findUnused_meets : Meets c g s findUnused
    (fun unused t =>
      unused = s.stemcells.records.filter (fun r => s.stemcells.current.all (·.id != r.id)) ∧
      Frame [] s t)
    fun _ t => c.StoreFails ∧ Frame [] s t :=
  unused_meets Surroundings.stemcells (fun _ => rfl) (fun _ => rfl) fun _ frame => frame.stemcells

end Stemcells

namespace StemcellRecord

/-- Promotion goes by name and version. -/
theorem promote_meets {stemcell : StemcellRecord} :
    Meets c .none s stemcell.promote
      (fun _ t => ∃ record, s.doc.findStemcell stemcell.name stemcell.version = some record ∧
        t.stemcells = { s.stemcells with pointer := record.id })
      fun _ t => t.stemcells = s.stemcells ∧
        (c.StoreFails ∨ s.doc.findStemcell stemcell.name stemcell.version = none) := by
  unfold promote
  refine Meets.seq (ask_meets (Frame.refl _ s) fun t frame => ?_) ?_ ?_
  · exact Surroundings.findStemcell_congr frame.stemcells
  · exact fun _ t lost => ⟨lost.2.stemcells, .inl lost.1⟩
  intro found t looked
  obtain ⟨same, before⟩ := looked
  cases found with
  | none => exact Meets.throw ⟨before.stemcells, .inr same.symm⟩
  | some record =>
    apply Meets.inContext
    apply accepted_meets
    · intro m frame
      have after := before.trans frame
      have found : m.doc.findStemcell stemcell.name stemcell.version = some record :=
        (Surroundings.findStemcell_congr after.stemcells).trans same.symm
      have recorded : record ∈ m.doc.stemcells := (Document.findStemcell_eq found).1
      refine ⟨_, Document.pointToStemcell_eq recorded, trivial, record, same.symm, ?_⟩
      rw [← after.stemcells]
      rfl
    · exact fun e u lost frame => ⟨(before.trans frame).stemcells, .inl lost.2⟩

/-- A stemcell was deleted, and its record with it. -/
structure Deleted (c : Conduct) (stemcell : StemcellRecord) (s t : Surroundings) : Prop where
  stemcells : t.stemcells =
    { s.stemcells.remove stemcell.id with there := t.cloud .stemcell }
  gone : c.honest → t.cloud .stemcell = (s.cloud .stemcell).erase stemcell.cid

theorem deleteInStep_meets {stemcell : StemcellRecord} {stage : Stage} {step : String} :
    Meets c .none s (stemcell.deleteInStep stage step) (fun _ t => stemcell.Deleted c s t)
      fun _ t => ¬c.StoreFails → t.stemcells = s.stemcells ∧
        (stemcell.cid ∈ s.cloud .stemcell → c.Troubled) := by
  refine Meets.discard (Meets.deletion
    (removal_meets (CloudCall.deleteStemcell_deletes _) trivial)
    (fun t shrunk erased => ?_) fun e t frame present => fun _ => ⟨frame.stemcells, present⟩)
  refine Meets.within (update_meets (fun _ _ => trivial) (fun m frame => ?_)
    fun e u fails _ => ⟨fails.cloudKind, fun works => absurd fails.2 works⟩)
  have there : m.cloud .stemcell = t.cloud .stemcell := congrArg Shelf.there frame.stemcells
  have removed : (m.saved (m.doc.removeStemcell stemcell.id)).stemcells =
      m.stemcells.remove stemcell.id := rfl
  refine ⟨?_, fun truly => there.trans (erased truly)⟩
  rw [removed, frame.stemcells, shrunk.stemcells, ← there]
  rfl

end StemcellRecord

end Reconciler
