import Reconciler.Proofs.RepositoryCalls

/-!
Well-formed documents: records can be told apart, and every pointer has its record. Whatever is
asked of the repositories, in whatever order, and whichever of it is refused or fails, the document
that lies in the store stays well-formed, and keeps its director id once it has one.
-/
namespace Reconciler

open Engine Repository

/-- Identifiers by which records can be told apart. -/
structure Distinguishing (ids : List String) : Prop where
  distinct : ids.Nodup
  named : "" ∉ ids

/-- A pointer to nothing, or to one of the identifiers. -/
def PointsInto (ids : List String) (pointer : String) : Prop := pointer = "" ∨ pointer ∈ ids

section Keys

variable {α : Type} {key : α → String} {records : List α} {record : α} {pointer id : String}

namespace Distinguishing

theorem fewer {fewer : List α} (apart : Distinguishing (records.map key))
    (less : fewer.Sublist records) : Distinguishing (fewer.map key) where
  distinct := apart.distinct.sublist (less.map key)
  named empty := apart.named ((less.map key).subset empty)

theorem add (apart : Distinguishing (records.map key)) (named : key record ≠ "")
    (new : key record ∉ records.map key) : Distinguishing ((records ++ [record]).map key) where
  distinct := nodup_map_add apart.distinct fun other member same =>
    new (List.mem_map.mpr ⟨other, member, same⟩)
  named empty := by
    rw [List.map_append, List.mem_append] at empty
    obtain old | last := empty
    · exact apart.named old
    · exact named (List.mem_singleton.mp last).symm

end Distinguishing

/-- What is not removed is still there. -/
theorem mem_map_remove (member : pointer ∈ records.map key) (other : pointer ≠ id) :
    pointer ∈ (records.filter (key · != id)).map key := by
  obtain ⟨record, recorded, rfl⟩ := List.mem_map.mp member
  exact List.mem_map_of_mem (List.mem_filter.mpr ⟨recorded, bne_iff_ne.mpr other⟩)

namespace PointsInto

theorem add (points : PointsInto (records.map key) pointer) :
    PointsInto ((records ++ [record]).map key) pointer := by
  rw [List.map_append]
  exact points.imp_right (List.mem_append_left _)

theorem remove (points : PointsInto (records.map key) pointer) :
    PointsInto ((records.filter (key · != id)).map key) (if pointer = id then "" else pointer) := by
  split
  case isTrue => exact .inl rfl
  case isFalse other => exact points.imp_right fun member => mem_map_remove member other

end PointsInto

end Keys

namespace Document

/-- What is recorded can be told apart, and what is current is recorded. -/
structure WellFormed (doc : Document) : Prop where
  disks : Distinguishing (doc.disks.map (·.id))
  stemcells : Distinguishing (doc.stemcells.map (·.id))
  releases : Distinguishing (doc.releases.map (·.id))
  currentDisk : PointsInto (doc.disks.map (·.id)) doc.currentDiskId
  currentStemcell : PointsInto (doc.stemcells.map (·.id)) doc.currentStemcellId
  currentReleases : ∀ id ∈ doc.currentReleaseIds, id ∈ doc.releases.map (·.id)
  versions : (doc.stemcells.map fun r => (r.name, r.version)).Nodup
  places : (doc.stemcells.map (·.cid)).Nodup

/-- The identifiers of all records. -/
def recordIds (doc : Document) : List String :=
  doc.disks.map (·.id) ++ doc.stemcells.map (·.id) ++ doc.releases.map (·.id)

theorem fresh_wellFormed (directorId : String) : (fresh directorId).WellFormed :=
  ⟨⟨.nil, nofun⟩, ⟨.nil, nofun⟩, ⟨.nil, nofun⟩, .inl rfl, .inl rfl, nofun, .nil, .nil⟩

variable {doc new : Document} {p : Part} {drawn : Option String}

theorem mem_recordIds {id : String} :
    id ∈ doc.recordIds ↔ id ∈ doc.disks.map (·.id) ∨ id ∈ doc.stemcells.map (·.id) ∨
      id ∈ doc.releases.map (·.id) := by
  simp only [recordIds, List.mem_append, or_assoc]

/-- A stemcell without a collision has a name and version and a cid of its own. -/
theorem alone_of_stemcellCollision {name version cid : String}
    (alone : doc.stemcellCollision name version cid = none) {record : StemcellRecord}
    (recorded : record ∈ doc.stemcells) :
    ¬(record.name = name ∧ record.version = version) ∧ record.cid ≠ cid := by
  have told := List.findSome?_eq_none_iff.mp alone record recorded
  split at told
  case isTrue => cases told
  case isFalse different =>
    split at told
    case isTrue => cases told
    case isFalse elsewhere => exact ⟨different, elsewhere⟩

namespace WellFormed

theorem addDisk {record : DiskRecord} (well : doc.WellFormed) (named : record.id ≠ "")
    (new : record.id ∉ doc.recordIds) : (doc.addDisk record).WellFormed :=
  { well with
    disks := well.disks.add named fun old => new (mem_recordIds.mpr (.inl old))
    currentDisk := well.currentDisk.add }

theorem removeDisk (well : doc.WellFormed) (id : String) : (doc.removeDisk id).WellFormed :=
  { well with
    disks := well.disks.fewer List.filter_sublist
    currentDisk := well.currentDisk.remove }

theorem addStemcell {record : StemcellRecord} (well : doc.WellFormed) (named : record.id ≠ "")
    (new : record.id ∉ doc.recordIds)
    (alone : doc.stemcellCollision record.name record.version record.cid = none) :
    (doc.addStemcell record).WellFormed :=
  { well with
    stemcells := well.stemcells.add named fun old => new (mem_recordIds.mpr (.inr (.inl old)))
    currentStemcell := well.currentStemcell.add
    versions := nodup_map_add well.versions fun _ recorded same =>
      (alone_of_stemcellCollision alone recorded).1 (Prod.mk.injEq .. |>.mp same)
    places := nodup_map_add well.places fun _ recorded =>
      (alone_of_stemcellCollision alone recorded).2 }

theorem removeStemcell (well : doc.WellFormed) (id : String) :
    (doc.removeStemcell id).WellFormed :=
  { well with
    stemcells := well.stemcells.fewer List.filter_sublist
    currentStemcell := well.currentStemcell.remove
    versions := well.versions.sublist (List.filter_sublist.map _)
    places := well.places.sublist (List.filter_sublist.map _) }

theorem addRelease {record : ReleaseRecord} (well : doc.WellFormed) (named : record.id ≠ "")
    (new : record.id ∉ doc.recordIds) : (doc.addRelease record).WellFormed :=
  { well with
    releases := well.releases.add named fun old => new (mem_recordIds.mpr (.inr (.inr old)))
    currentReleases := fun id pointed => by
      rw [Document.addRelease, List.map_append]
      exact List.mem_append_left _ (well.currentReleases id pointed) }

theorem removeRelease (well : doc.WellFormed) (id : String) : (doc.removeRelease id).WellFormed :=
  { well with
    releases := well.releases.fewer List.filter_sublist
    currentReleases := fun other pointed => by
      obtain ⟨pointed, different⟩ := List.mem_filter.mp pointed
      exact mem_map_remove (well.currentReleases other pointed) (bne_iff_ne.mp different) }

/-- Every change leaves a well-formed document well-formed, if what is drawn for it is new. -/
theorem change (well : doc.WellFormed) (change : Change p doc drawn new)
    (fresh : ∀ id ∈ drawn, id ≠ "" ∧ id ∉ doc.recordIds) : new.WellFormed := by
  cases change with
  | setCurrentVm => exact { well with }
  | pointToDisk recorded => exact { well with currentDisk := .inr recorded }
  | clearCurrentDisk => exact { well with currentDisk := .inl rfl }
  | addDisk => exact well.addDisk (fresh _ rfl).1 (fresh _ rfl).2
  | removeDisk => exact well.removeDisk _
  | pointToStemcell recorded => exact { well with currentStemcell := .inr recorded }
  | clearCurrentStemcell => exact { well with currentStemcell := .inl rfl }
  | addStemcell _ alone => exact well.addStemcell (fresh _ rfl).1 (fresh _ rfl).2 alone
  | removeStemcell => exact well.removeStemcell _
  | pointToReleases recorded => exact { well with currentReleases := recorded }
  | clearCurrentReleases => exact { well with currentReleases := nofun }
  | addRelease => exact well.addRelease (fresh _ rfl).1 (fresh _ rfl).2
  | removeRelease => exact well.removeRelease _

end WellFormed

/-- A change records nothing new but what was drawn for it. -/
theorem Change.recorded (change : Change p doc drawn new) {id : String}
    (recorded : id ∈ new.recordIds) : id ∈ doc.recordIds ∨ id ∈ drawn := by
  rw [mem_recordIds] at recorded ⊢
  cases change with
  | addDisk | addStemcell | addRelease =>
    simp only [Document.addDisk, Document.addStemcell, Document.addRelease, List.map_append,
      List.map_singleton, List.mem_append, List.mem_singleton] at recorded
    grind
  | removeDisk | removeStemcell | removeRelease =>
    simp only [Document.removeDisk, Document.removeStemcell, Document.removeRelease] at recorded
    grind
  | _ => exact .inl recorded

/-- The director of a document is not changed. -/
theorem Change.directorId (change : Change p doc drawn new) :
    new.directorId = doc.directorId := by
  cases change <;> rfl

end Document

variable {s t : Surroundings}

/-- The document is well-formed, and no identifier in it will be drawn again. -/
structure Surroundings.Sound (s : Surroundings) : Prop where
  wellFormed : s.doc.WellFormed
  known : ∀ id ∈ s.doc.recordIds, id ∈ s.ids

/-- What is saved is sound, and of the same director. -/
def Guard.sound : Guard := fun s r =>
  ∀ doc, r = .save doc → (s.saved doc).Sound ∧ doc.directorId = s.doc.directorId

namespace Surroundings.Sound

theorem frame (sound : s.Sound) (frame : Frame [] s t) : t.Sound := by
  obtain ⟨wellFormed, known⟩ := sound
  constructor
  · rw [frame.doc]
    exact { wellFormed with }
  · intro id recorded
    rw [frame.doc] at recorded
    exact frame.ids (known id recorded)

theorem step {r : Request} (sound : s.Sound) (guarded : ¬r.IsQuiet → Guard.sound s r)
    (step : s.Step r t) : t.Sound := by
  obtain ⟨wellFormed, known⟩ := sound
  cases step with
  | saved => exact (guarded id _ rfl).1
  | loaded => exact ⟨{ wellFormed with }, known⟩
  | issued => exact ⟨wellFormed, fun id recorded => Finset.mem_insert_of_mem (known id recorded)⟩
  | _ => exact ⟨wellFormed, known⟩

/-- What a call saves, with or without an identifier that was drawn for it. -/
theorem saves {call : RepositoryCall} {drawn : Option String} {doc : Document} (sound : s.Sound)
    (saves : call.Saves s.doc drawn doc) (fresh : ∀ id ∈ drawn, id ≠ "" ∧ id ∉ s.ids)
    (same : t.doc = s.doc) (ids : s.ids ⊆ t.ids) (known : ∀ id ∈ drawn, id ∈ t.ids) :
    Guard.sound t (.save doc) ∧ (t.saved doc).Sound := by
  have change := saves.change
  have sound' : (t.saved doc).Sound := by
    constructor
    · refine sound.wellFormed.change change fun id drawn => ?_
      exact ⟨(fresh id drawn).1, fun old => (fresh id drawn).2 (sound.known id old)⟩
    · intro id recorded
      obtain old | drawn := change.recorded recorded
      · exact ids (sound.known id old)
      · exact known id drawn
  refine ⟨?_, sound'⟩
  rintro _ ⟨⟩
  exact ⟨sound', same ▸ change.directorId⟩

end Surroundings.Sound

open Surroundings

namespace RepositoryCall

theorem keepsSound (call : RepositoryCall) : Keeps .any .sound Sound call.program := by
  rw [program_eq]
  intro s sound
  cases used : call.use with
  | looks => exact Meets.discard (look_meets (fun t frame => sound.frame frame) fun _ _ => sound)
  | updates edit =>
    have saves (m : Surroundings) (frame : Frame [] s m) :
        Guard.sound m (.save (edit m.doc)) ∧ (m.saved (edit m.doc)).Sound := by
      have saves : call.Saves m.doc none (edit m.doc) := by
        rw [Saves, used]
        exact .updates
      exact (sound.frame frame).saves saves nofun rfl (Finset.Subset.refl _) nofun
    exact update_meets (fun m frame => (saves m frame).1) (fun m frame => (saves m frame).2)
      fun _ t _ frame => sound.frame frame
  | edits edit =>
    refine tryUpdate_meets (fun m doc frame edited => ?_) (fun m _ frame _ => sound.frame frame)
      fun _ t _ frame => sound.frame frame
    have saves : call.Saves m.doc none doc := by
      rw [Saves, used]
      exact .edits edited
    exact (sound.frame frame).saves saves nofun rfl (Finset.Subset.refl _) nofun
  | records edit =>
    refine change_meets (fun m frame => ?_) fun _ _ => sound
    have sound' := sound.frame frame
    refine Meets.bind (Q := fun add t => edit m.doc = .ok add ∧ t = m)
      (Meets.consistent (fun _ edited => ⟨edited, rfl⟩) fun _ _ => sound') ?_
    rintro add m ⟨edited, rfl⟩
    refine Meets.bind (Q := fun id t => id ≠ "" ∧ id ∉ m.ids ∧ t = m.issued id)
      (Meets.freshId fun id named new => ⟨named, new, rfl⟩) ?_
    rintro id _ ⟨named, new, rfl⟩
    have fresh : ∀ other ∈ some id, other ≠ "" ∧ other ∉ m.ids := by
      rintro _ ⟨⟩
      exact ⟨named, new⟩
    have issued : Frame [] m (m.issued id) := Frame.issued named new
    have saves : call.Saves m.doc (some id) (add id) := by
      rw [Saves, used]
      exact .records edited
    have known : ∀ other ∈ some id, other ∈ (m.issued id).ids := by
      rintro _ ⟨⟩
      exact Finset.mem_insert_self _ _
    have saved : Guard.sound (m.issued id) (.save (add id)) ∧
        ((m.issued id).saved (add id)).Sound := sound'.saves saves fresh rfl issued.ids known
    exact Meets.pure ⟨saved.1, saved.2, fun _ _ _ later => (sound'.frame issued).frame later⟩

/-- One call after the other, whether the calls before were refused, failed or went well. -/
def inTurn : List RepositoryCall → Program Effects (List (Except Failure Unit))
  | [] => return []
  | call :: rest => do
    let result ← call.program.run
    return result :: (← inTurn rest)

theorem inTurn_sound (calls : List RepositoryCall) (sound : s.Sound) :
    (inTurn calls).Meets Conduct.any.Answers Guard.sound.safe (fun _ => Sound) s := by
  induction calls generalizing s with
  | nil => exact sound
  | cons call rest ih =>
    have kept : call.program.run.Meets _ _ _ s := call.keepsSound s sound
    refine Program.Meets.bind (Q := fun _ => Sound) (Program.Meets.weaken kept ?_) ?_
    · intro result t sound
      cases result with
      | ok => exact sound
      | error => exact sound
    · exact fun result t sound => Program.Meets.bind (ih sound) fun _ _ sound => sound

end RepositoryCall

/-- Whatever is asked of the repositories of a well-formed document, one call after the other, with
whatever arguments, and whatever fails: at each moment the document in the store is well-formed, and
from a moment when it has a director id on it keeps that id. -/
theorem repositories_keep_wellFormed {calls : List RepositoryCall} {t u : Surroundings}
    {left left' : Program Effects (List (Except Failure Unit))} (wellFormed : s.doc.WellFormed)
    (known : ∀ id ∈ s.doc.recordIds, id ∈ s.ids)
    (moment : (RepositoryCall.inTurn calls).Reaches Conduct.any.Answers s left t)
    (later : left.Reaches Conduct.any.Answers t left' u) :
    u.doc.WellFormed ∧ (t.doc.directorId ≠ "" → u.doc.directorId = t.doc.directorId) := by
  have valid := RepositoryCall.inTurn_sound calls ⟨wellFormed, known⟩
  constructor
  · have sound : u.Sound := by
      apply Program.Meets.always Sound valid (moment.trans later) ⟨wellFormed, known⟩
      exact fun _ _ _ _ answered safe sound => sound.step safe answered.step
    exact sound.wellFormed
  · intro given
    apply Program.Meets.always (fun v => v.doc.directorId = t.doc.directorId) (valid.reach moment)
      later rfl
    intro v r reply w answered safe same
    cases answered.step with
    | saved => exact ((safe id) _ rfl).2.trans same
    | loaded kept => exact (kept (same ▸ given)).trans same
    | _ => exact same

/-- A stemcell that is recorded, made current and deleted in a new workspace leaves no pointer to
it, and making it current again is refused. -/
theorem repositories_keep_wellFormed_deleted :
    ∃ left t u,
      (RepositoryCall.inTurn [.saveStemcell "stemcell" "1" "cid", .setCurrentStemcell "1",
        .deleteStemcell "1", .setCurrentStemcell "1"]).Reaches Conduct.any.Answers .empty left t ∧
      left.Reaches Conduct.any.Answers t (.done [.ok (), .ok (), .ok (),
        .error (.invalidState (.unknownStemcell "1"))]) u ∧
      t.doc.directorId = "director" ∧ u.doc.WellFormed ∧ u.doc.directorId = "director" := by
  have loads (s : Surroundings) (kept : s.doc.directorId ≠ "" → "director" = s.doc.directorId) :=
    Conduct.any.answers_load s _ kept
  have saves := Conduct.any.answers_save
  have draws : Conduct.any.Answers (.loaded .empty "director") .freshId "1" _ :=
    Conduct.any.answers_freshId _ (by decide) (by decide)
  have ran : ∃ left t u,
      (RepositoryCall.inTurn [.saveStemcell "stemcell" "1" "cid", .setCurrentStemcell "1",
        .deleteStemcell "1", .setCurrentStemcell "1"]).Reaches Conduct.any.Answers .empty left t ∧
      left.Reaches Conduct.any.Answers t (.done [.ok (), .ok (), .ok (),
        .error (.invalidState (.unknownStemcell "1"))]) u ∧ t.doc.directorId = "director" :=
    ⟨_, _, _, .next (loads _ nofun) (.here _ _),
      .next draws <| .next (saves _ _) <| .next (loads _ fun _ => rfl) <| .next (saves _ _) <|
      .next (loads _ fun _ => rfl) <| .next (saves _ _) <| .next (loads _ fun _ => rfl) <|
      .here _ _, rfl⟩
  obtain ⟨left, t, u, first, later, director⟩ := ran
  have kept := repositories_keep_wellFormed (Document.fresh_wellFormed "") (by decide) first later
  rw [director] at kept
  exact ⟨left, t, u, first, later, director, kept.1, kept.2 (by decide)⟩

end Reconciler
