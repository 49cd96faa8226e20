import Reconciler.Proofs.Watching

/-!
Deletions of a resource together with its record. The record is edited away when the cloud has
deleted the resource or no longer knows it, and nothing is changed otherwise. The record of a disk
is looked up by the disk's cid, so that it is the first record of that cid that goes.
-/
namespace Reconciler

open Engine Repository

variable {c : Conduct} {mints : Prop} {s t : Surroundings}

/-- A reply that says that the resource is not there any more. -/
def CloudErrorKind.Tolerates (gone : CloudErrorKind) : Except CloudError Unit → Prop
  | .ok () => True
  | .error error => error.kind = gone

/-- How a deletion ends after a reply of the cloud, and what becomes of the document. -/
inductive Discards (c : Conduct) (gone : CloudErrorKind) (edit : Document → Document)
    (s t : Surroundings) : Except CloudError Unit → Except Failure Unit → Prop
  | deleted (forgotten : s.Becomes edit t) : Discards c gone edit s t (.ok ()) (.ok ())
  | absent {error : CloudError} (isGone : error.kind = gone) (forgotten : s.Becomes edit t) :
      Discards c gone edit s t (.error error) (.error (.cloud error))
  | refused {error : CloudError} {context : String} (other : error.kind ≠ gone)
      (kept : s.Stays t) :
      Discards c gone edit s t (.error error) (.error (.within context (.cloud error)))
  | unforgotten {reply : Except CloudError Unit} {failure : Failure}
      (tolerated : gone.Tolerates reply) (lost : c.StoreFailure failure) (kept : s.Stays t) :
      Discards c gone edit s t reply (.error failure)

/-- A deletion that has ended, with what the cloud was asked for it. -/
def DeletionEnds (c : Conduct) (gone : CloudErrorKind) (edit : Document → Document)
    (asked : Except CloudError Unit → Exchange) (s : Surroundings) (result : Except Failure Unit)
    (t : Surroundings) : Prop :=
  ∃ reply, t.deeds = s.deeds ++ [asked reply] ∧ Discards c gone edit s t reply result

namespace Engine

/-- A call that leaves the document alone. -/
theorem tryCloud_alone (call : CloudCall) :
    (tryCloud call).Meets c.Answers Guard.none.safe
      (fun reply t => t.doc = s.doc ∧ t.deeds = s.deeds ++ [⟨.cloud call, reply⟩]) s := by
  apply tryCloud_meets fun _ => trivial
  · exact fun answer _ => ⟨rfl, s.deeds_served call answer⟩
  · exact fun error _ _ => ⟨rfl, s.deeds_noted call (.error error)⟩

/-- The cloud is asked once, and what is forgotten after that is no call of its own. -/
theorem Meets.discards {deletion : Program Effects (Except CloudError Unit)}
    {gone : CloudErrorKind} {context : String} {forget : Engine Unit}
    {edit : Document → Document} {asked : Except CloudError Unit → Exchange}
    (deleted : deletion.Meets c.Answers Guard.none.safe
      (fun reply t => t.doc = s.doc ∧ t.deeds = s.deeds ++ [asked reply]) s)
    (asks : forget.Asks Request.IsRecord)
    (forgets : ∀ t, Meets c .none t forget (fun _ u => t.Becomes edit u)
      fun e u => c.StoreFailure e ∧ t.Stays u) :
    Meets c .none s (Reconciler.deleteThenForget deletion gone context forget)
      (fun _ => DeletionEnds c gone edit asked s (.ok ()))
      fun e => DeletionEnds c gone edit asked s (.error e) := by
  apply Meets.deleteThenForget deleted
  · rintro t ⟨same, made⟩
    apply ((forgets t).and asks.keepsDeeds).weaken
    · rintro _ u ⟨forgotten, kept⟩
      exact ⟨_, kept.trans made, .deleted (forgotten.congr same)⟩
    · rintro e u ⟨⟨lost, forgotten⟩, kept⟩
      exact ⟨_, kept.trans made, .unforgotten trivial lost (forgotten.congr same)⟩
  · rintro error t ⟨same, made⟩ isGone
    apply ((forgets t).and asks.keepsDeeds).weaken
    · rintro _ u ⟨forgotten, kept⟩
      exact ⟨_, kept.trans made, .absent isGone (forgotten.congr same)⟩
    · rintro e u ⟨⟨lost, forgotten⟩, kept⟩
      exact ⟨_, kept.trans made, .unforgotten isGone lost (forgotten.congr same)⟩
  · rintro error t ⟨same, made⟩ other
    exact ⟨_, made, .refused other (.congr rfl same)⟩

end Engine

namespace Document

variable {cid : String} {doc : Document}

/-- Without the first record of a disk. -/
def forgetDisk (cid : String) (doc : Document) : Document :=
  match doc.findDisk cid with
  | none => doc
  | some first => doc.removeDisk first.id

theorem forgetDisk_none (absent : doc.findDisk cid = none) : doc.forgetDisk cid = doc := by
  rw [forgetDisk, absent]

theorem forgetDisk_some {first : DiskRecord} (found : doc.findDisk cid = some first) :
    doc.forgetDisk cid = doc.removeDisk first.id := by rw [forgetDisk, found]

end Document

namespace DiskRecord

/-- The record is looked up by the cid of the disk. -/
theorem forget_becomes (cid : String) : Meets c .none s (do
      match ← within "Finding disk record" (Disks.find cid) with
      | none => return ()
      | some record => within "Deleting disk record" (Disks.delete record.id))
    (fun _ t => s.Becomes (Document.forgetDisk cid) t)
    fun e t => c.StoreFailure e ∧ s.Stays t := by
  have lost (e : Failure) (lost : c.StoreFailure e) : c.StoreFailure e ∧ s.Stays s :=
    ⟨lost, rfl⟩
  have looked : Meets c .none s (within "Finding disk record" (Disks.find cid))
      (fun found t => found = s.doc.findDisk cid ∧ s.Stays t)
      fun e t => c.StoreFailure e ∧ s.Stays t := by
    apply Meets.within
    apply read_meets (fun t frame => ?_) lost
    exact ⟨Surroundings.findDisk_congr frame.disks, .ofFrame frame⟩
  apply Meets.bind looked
  rintro found t ⟨same, seen⟩
  cases found with
  | none =>
    apply Meets.pure
    have absent : (s.doc.withDirector t.doc.directorId).findDisk cid = none := same.symm
    exact Eq.trans seen (Document.forgetDisk_none absent).symm
  | some first =>
    apply Meets.within
    apply (update_becomes fun _ _ => rfl).weaken
    · intro _ u removed
      have found : (s.doc.withDirector u.doc.directorId).findDisk cid = some first := same.symm
      have becomes : u.doc = _ := seen.trans removed fun _ _ => rfl
      exact becomes.trans (Document.forgetDisk_some found).symm
    · rintro e u ⟨lost, kept⟩
      exact ⟨lost, seen.trans kept fun _ _ => rfl⟩

theorem forget_asks (cid : String) : Asks Request.IsRecord (do
    match ← within "Finding disk record" (Disks.find cid) with
    | none => return ()
    | some record => within "Deleting disk record" (Disks.delete record.id)) := by
  apply Asks.bind (read_asks _).within
  intro found
  cases found with
  | none => exact .pure ()
  | some record => exact (update_asks _).within

theorem delete_discards (disk : DiskRecord) :
    let Ended := DeletionEnds c .diskNotFound (Document.forgetDisk disk.cid)
      (⟨.cloud (.deleteDisk disk.cid), ·⟩) s
    Meets c .none s disk.delete (fun _ => Ended (.ok ())) fun e => Ended (.error e) :=
  Meets.discards (tryCloud_alone _) (forget_asks _) fun _ => forget_becomes _

end DiskRecord

theorem StemcellRecord.delete_discards (stemcell : StemcellRecord) :
    let Ended := DeletionEnds c .stemcellNotFound (Document.removeStemcell stemcell.id)
      (⟨.cloud (.deleteStemcell stemcell.cid), ·⟩) s
    Meets c .none s stemcell.delete (fun _ => Ended (.ok ())) fun e => Ended (.error e) :=
  Meets.discards (tryCloud_alone _) (update_asks _).within
    fun _ => Meets.within (update_becomes fun _ _ => rfl)

/-- The deletion has come to its end, or has found the disk gone. -/
def Discarded (result : Except Failure Unit) : Prop :=
  result = .ok () ∨ ∃ failure, result = .error failure ∧ failure.cloudKind = some .diskNotFound

namespace Discards

variable {edit : Document → Document} {reply : Except CloudError Unit}
  {result : Except Failure Unit}

theorem forgotten (ends : Discards c .diskNotFound edit s t reply result)
    (discarded : Discarded result) : s.Becomes edit t := by
  obtain rfl | ⟨failure, rfl, gone⟩ := discarded
  · cases ends with
    | deleted forgotten => exact forgotten
  · cases ends with
    | absent _ forgotten => exact forgotten
    | refused other => exact absurd (Option.some.inj gone) other
    | unforgotten _ lost => cases lost.cloudKind.symm.trans gone

theorem kept (ends : Discards c .diskNotFound edit s t reply result)
    (failed : ¬Discarded result) : s.Stays t := by
  cases ends with
  | deleted => exact absurd (.inl rfl) failed
  | absent isGone => exact absurd (.inr ⟨_, rfl, congrArg some isGone⟩) failed
  | refused _ kept => exact kept
  | unforgotten _ _ kept => exact kept

end Discards

section Keys

variable {ρ : Type} {key : ρ → String} {before after : List ρ} {record : ρ}

/-- A record is found unless an earlier one fits as well. -/
theorem find?_eq_record_iff {p : ρ → Bool} (distinct : ((before ++ record :: after).map key).Nodup)
    (fits : p record = true) :
    (before ++ record :: after).find? p = some record ↔ ∀ other ∈ before, p other = false := by
  rw [List.find?_append, List.find?_cons_of_pos fits]
  cases found : before.find? p with
  | none => simpa using found
  | some other =>
    have member := List.mem_of_find?_eq_some found
    have different : other ≠ record := by
      rintro rfl
      rw [List.map_append, List.map_cons, List.nodup_middle, List.nodup_cons] at distinct
      exact distinct.1 (List.mem_append_left _ (List.mem_map_of_mem member))
    constructor
    · intro same
      exact absurd (Option.some.inj same) different
    · intro none
      cases (none other member).symm.trans (List.find?_some found)

end Keys

/-- A deletion of a recorded disk that returned, or failed because the disk is gone, has removed the
first record of its cid and no other, and has cleared the pointer if it was to that one. That is the
disk's own record unless an earlier one shares its cid. A deletion that failed otherwise has changed
nothing. -/
theorem DiskRecord.delete_forgets_first {disk : DiskRecord} {earlier later : List DiskRecord}
    {result : Except Failure Unit} (distinct : (s.doc.disks.map (·.id)).Nodup)
    (recorded : s.doc.disks = earlier ++ disk :: later)
    (ran : disk.delete.run.Reaches (Conduct.any.AnswersMinting mints) s (.done result) t) :
    s.KeepsDirector mints t ∧ ∃ first, s.doc.findDisk disk.cid = some first ∧
      (first = disk ↔ ∀ other ∈ earlier, other.cid ≠ disk.cid) ∧
      (Discarded result → t.doc = { s.doc with
        directorId := t.doc.directorId
        disks := s.doc.disks.filter (·.id != first.id)
        currentDiskId := if s.doc.currentDiskId = first.id then "" else s.doc.currentDiskId }) ∧
      (¬Discarded result → t.doc = { s.doc with directorId := t.doc.directorId }) := by
  have own := find?_eq_record_iff (p := (·.cid == disk.cid)) (recorded ▸ distinct) (by simp)
  obtain ⟨first, found⟩ : ∃ first, s.doc.findDisk disk.cid = some first := by
    refine Option.isSome_iff_exists.mp (List.find?_isSome.mpr ⟨disk, ?_, by simp⟩)
    rw [recorded]
    exact List.mem_append_right _ (List.mem_cons_self ..)
  have valid := (disk.delete_discards (c := .any) (s := s)).keepsDirector mints
    disk.delete_touches (by decide)
  obtain ⟨ended, kept⟩ := valid.ends ran
  obtain ⟨reply, -, ends⟩ : DeletionEnds .any .diskNotFound (Document.forgetDisk disk.cid)
      (⟨.cloud (.deleteDisk disk.cid), ·⟩) s result t := by
    cases result with
    | ok => exact ended
    | error => exact ended
  refine ⟨kept, first, found, ?_, fun discarded => ?_, ends.kept⟩
  · rw [← recorded, show s.doc.disks.find? _ = some first from found] at own
    simpa using own
  · have found : (s.doc.withDirector t.doc.directorId).findDisk disk.cid = some first := found
    exact Eq.trans (ends.forgotten discarded) (Document.forgetDisk_some found)

/-- Two records of one disk; the later one is current. -/
def Surroundings.twins : Surroundings :=
  { Surroundings.empty with
    doc := { Document.fresh "director" with
      currentDiskId := "b", disks := [⟨"a", "disk", 1, []⟩, ⟨"b", "disk", 2, []⟩] } }

/-- When the current one of two records of a disk is deleted, the other one goes. -/
theorem DiskRecord.delete_forgets_first_twin : ∃ t,
    (DiskRecord.delete ⟨"b", "disk", 2, []⟩).run.Reaches (Conduct.any.AnswersMinting True) .twins
      (.done (.ok ())) t ∧
    t.doc.disks = [⟨"b", "disk", 2, []⟩] ∧ t.doc.currentDiskId = "b" := by
  let c := Conduct.any
  have loaded (s : Surroundings) (same : s.doc.directorId = "director") :
      c.AnswersMinting True s .load _ (s.loaded "director") :=
    c.minting_load (fun _ => same.symm) (by decide)
  obtain ⟨t, ran⟩ : ∃ t, (DiskRecord.delete ⟨"b", "disk", 2, []⟩).run.Reaches
      (c.AnswersMinting True) .twins (.done (.ok ())) t :=
    ⟨_, .next (c.minting_cloud (.deleteDisk "disk") () nofun) <| .next (loaded _ rfl) <|
      .next (loaded _ rfl) <| .next (c.minting_save _ _) <| .here _ _⟩
  have recorded : Surroundings.twins.doc.disks =
      [⟨"a", "disk", 1, []⟩] ++ ⟨"b", "disk", 2, []⟩ :: [] := rfl
  obtain ⟨-, first, found, -, removed, -⟩ := delete_forgets_first (by decide) recorded ran
  obtain rfl : _ = first := Option.some.inj found
  have doc := removed (.inl rfl)
  refine ⟨t, ran, congrArg Document.disks doc, ?_⟩
  rw [doc]
  rfl

end Reconciler
