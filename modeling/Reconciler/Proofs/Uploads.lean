import Reconciler.Proofs.InstanceDeletion
import Reconciler.Proofs.StemcellRuns
import Reconciler.Proofs.Watching

/-!
Uploads, one after the other, with a store that can be relied on. A stemcell is looked up by its
name and version before the cloud makes one, so that it is made at most once, and from then on every
upload returns its record. An upload that fails has recorded nothing.
-/
namespace Reconciler

open Engine Repository

variable {c : Conduct} {mints : Prop} {s t : Surroundings}

/-- What tells stemcells apart to those who upload them. -/
def StemcellRecord.names (record : StemcellRecord) : String × String :=
  (record.name, record.version)

def ExtractedStemcell.names (extracted : ExtractedStemcell) : String × String :=
  (extracted.manifest.name, extracted.manifest.version)

/-- The call that makes a stemcell. -/
def ExtractedStemcell.creation (extracted : ExtractedStemcell) : CloudCall :=
  .createStemcell extracted.manifest.imagePath extracted.manifest.cloudProperties

namespace Document

def findNamed (names : String × String) (doc : Document) : Option StemcellRecord :=
  doc.findStemcell names.1 names.2

variable {names : String × String} {doc : Document} {record : StemcellRecord}

theorem findNamed_some (found : doc.findNamed names = some record) :
    record ∈ doc.stemcells ∧ record.names = names := by
  obtain ⟨member, name, version⟩ := findStemcell_eq found
  exact ⟨member, Prod.ext name version⟩

theorem findNamed_eq_none : doc.findNamed names = none ↔
    ∀ record ∈ doc.stemcells, record.names ≠ names := by
  unfold findNamed findStemcell
  simp [StemcellRecord.names, Prod.ext_iff]

end Document

/-- The cid of a stemcell that was made. -/
def Exchange.createdStemcell : Exchange → Option String
  | ⟨.cloud (.createStemcell ..), .ok cid⟩ => some cid
  | _ => none

/-- How an upload ends, with the outcome of its step. -/
inductive UploadEnds (extracted : ExtractedStemcell) (s t : Surroundings) :
    Except Failure (StemcellRecord × Outcome) → Prop
  | found {record : StemcellRecord} (recorded : s.doc.findNamed extracted.names = some record)
      (stays : s.Stays t) (unasked : t.deeds = s.deeds) :
      UploadEnds extracted s t (.ok (record, .skipped "Stemcell already uploaded"))
  | made {record : StemcellRecord} (absent : s.doc.findNamed extracted.names = none)
      (named : record.names = extracted.names) (taken : record.cid ∈ t.seen .stemcell)
      (added : s.Becomes (Document.addStemcell record) t)
      (one : t.deeds = s.deeds ++ [⟨.cloud extracted.creation, .ok record.cid⟩]) :
      UploadEnds extracted s t (.ok (record, .finished))
  | refused {error : CloudError} {failure : Failure}
      (absent : s.doc.findNamed extracted.names = none) (stays : s.Stays t)
      (one : t.deeds = s.deeds ++ [⟨.cloud extracted.creation, .error error⟩]) :
      UploadEnds extracted s t (.error failure)

namespace Stemcells

/-- What is done in the step of an upload. -/
def uploadOnce (extracted : ExtractedStemcell) : Engine (StemcellRecord × Outcome) := do
  let manifest := extracted.manifest
  match ← within "Finding existing stemcell record in repo"
      (Stemcells.find manifest.name manifest.version) with
  | some record => return (record, Outcome.skipped "Stemcell already uploaded")
  | none =>
    let cid : String ← within s!"creating stemcell ({manifest.name} {manifest.version})"
      (Engine.cloud (.createStemcell manifest.imagePath manifest.cloudProperties))
    let record ← within s!"saving stemcell record in repo (cid={cid}, stemcell={extracted.text})"
      (Stemcells.save manifest.name manifest.version cid)
    return (record, Outcome.finished)

theorem upload_eq (extracted : ExtractedStemcell) (stage : Stage) : upload extracted stage = (do
    let (record, _) ← stage.step "Uploading" Prod.snd (uploadOnce extracted)
    return record) := rfl

variable {extracted : ExtractedStemcell}

theorem find_meets {context name version : String} :
    Meets c .none s (within context (find name version))
      (fun found t => found = s.doc.findStemcell name version ∧ t.deeds = s.deeds ∧ Frame [] s t)
      fun _ _ => c.StoreFails := by
  have asked : (within context (find name version)).Asks Request.IsRecord := (read_asks _).within
  apply ((ask_meets (Frame.refl _ s) fun t frame => ?_).and asked.keepsDeeds).weaken
  · rintro found t ⟨⟨same, frame⟩, unasked⟩
    exact ⟨same, unasked, frame⟩
  · exact fun _ _ lost => lost.1.1
  · exact Surroundings.findStemcell_congr frame.stemcells

/-- A stemcell is recorded, and nothing else changes. -/
theorem save_becomes {name version cid : String}
    (absent : s.doc.findStemcell name version = none) (new : ∀ r ∈ s.doc.stemcells, r.cid ≠ cid) :
    Meets c .none s (save name version cid)
      (fun record t => record.names = (name, version) ∧ record.cid = cid ∧ t.deeds = s.deeds ∧
        s.Becomes (Document.addStemcell record) t ∧ Frame [.stemcells] s t)
      fun _ _ => c.StoreFails := by
  have framed := (save_touches name version cid).framed (save_meets (c := c) absent)
  apply (framed.and (save_asks name version cid).keepsDeeds).weaken
  · rintro record t ⟨⟨⟨rfl, rfl, rfl, -, -, -, stemcells⟩, frame⟩, none⟩
    refine ⟨rfl, rfl, none, ?_, frame⟩
    have machine := congrArg MachinePart.current (frame.machine_of (by decide))
    have disks := frame.disks_of (by decide)
    have releases := frame.releases_of (by decide)
    unfold Surroundings.Becomes
    rw [Document.mk.injEq]
    exact ⟨rfl, machine, congrArg Shelf.pointer stemcells, congrArg Shelf.pointer disks,
      congrArg ReleasePart.pointers releases, congrArg Shelf.records disks,
      congrArg Shelf.records stemcells, congrArg ReleasePart.records releases⟩
  · rintro e t ⟨⟨fails | ⟨record, member, same⟩, -⟩, -⟩
    · exact fails
    · exact absurd same (new record member)

variable (extracted) in
theorem uploadOnce_meets (works : ¬c.StoreFails)
    (seen : ∀ record ∈ s.doc.stemcells, record.cid ∈ s.seen .stemcell) :
    Meets c .none s (uploadOnce extracted) (fun made t => UploadEnds extracted s t (.ok made))
      fun failure t => UploadEnds extracted s t (.error failure) := by
  let name := extracted.manifest.name
  let version := extracted.manifest.version
  apply Meets.seq find_meets
  · exact fun _ _ fails => absurd fails works
  rintro found t ⟨same, unasked, frame⟩
  have stays : s.Stays t := .ofFrame frame
  cases found with
  | some record => exact Meets.pure (.found same.symm stays unasked)
  | none =>
    have absent : t.doc.findStemcell name version = none :=
      (Surroundings.findStemcell_congr frame.stemcells).trans same.symm
    refine Meets.bind (Q := fun (cid : String) u => cid ∉ t.seen .stemcell ∧
      u = t.served extracted.creation cid) (Meets.within (Meets.cloud (fun _ => trivial) ?_ ?_)) ?_
    · exact fun (cid : String) unused => ⟨unused .stemcell cid rfl, rfl⟩
    · intro error _
      have one := t.deeds_noted extracted.creation (.error error)
      exact .refused same.symm stays (unasked ▸ one)
    · rintro cid _ ⟨unused, rfl⟩
      have new : ∀ record ∈ t.doc.stemcells, record.cid ≠ cid := by
        rintro record member rfl
        have member' : record ∈ s.doc.stemcells := by
          have records : t.doc.stemcells = s.doc.stemcells := congrArg Shelf.records frame.stemcells
          exact records ▸ member
        exact unused (frame.seen _ (seen record member'))
      have saved : Meets c .none (t.served extracted.creation cid) (save name version cid) _ _ :=
        save_becomes absent new
      apply Meets.seq (Meets.inContext saved)
      · exact fun _ _ fails => absurd fails works
      · rintro record u ⟨named, rfl, kept, added, frame'⟩
        refine Meets.pure (.made same.symm named (frame'.seen _ ?_) (stays.trans added ?_) ?_)
        · simp [Surroundings.served, Holdings.everAfter, CloudCall.created,
            ExtractedStemcell.creation]
        · exact fun _ _ => rfl
        · rw [kept, ← unasked]
          exact t.deeds_served extracted.creation record.cid

variable (extracted) in
theorem uploadOnce_touches : (uploadOnce extracted).Touches [.stemcells] := by
  apply Keeps.bind (Keeps.within (read_heeds _))
  intro found
  cases found with
  | some record => exact Keeps.pure _
  | none =>
    refine Keeps.bind (Keeps.within (Heeds.cloud (Guard.sparing_cloud ?_))) fun cid => ?_
    · simp [CloudCall.part]
    · exact Keeps.bind (Keeps.within (save_touches _ _ cid)) fun _ => Keeps.pure _

theorem uploadOnce_silent : (uploadOnce extracted).Asks Request.IsSilent := by
  apply Asks.bind (read_asks _).within.ofRecords
  intro found
  cases found with
  | some record => exact .pure _
  | none =>
    have asks (call : CloudCall) : (Engine.cloud call).Asks Request.IsSilent := .cloud rfl
    refine .bind (asks _).within fun cid => ?_
    exact .bind (save_asks _ _ cid).within.ofRecords fun _ => .pure _

/-- What is heard of an upload is its one step. -/
theorem upload_watched {stage : Stage} {w : Watched} (works : ¬c.StoreFails)
    (seen : ∀ record ∈ w.now.doc.stemcells, record.cid ∈ w.now.seen .stemcell) :
    (upload extracted stage).run.Meets (c.AnswersWatched mints) (fun _ _ _ _ => True)
      (fun result v => ∃ made, result = made.map Prod.fst ∧
        UploadEnds extracted w.now v.now made ∧ Frame [.stemcells] w.now v.now ∧
        v.heard = w.heard ++ (stage.told "Uploading" (made.map Prod.snd)).events ∧
        w.now.KeepsDirector mints v.now) w := by
  have touches := uploadOnce_touches extracted
  have ended := (touches.framed (uploadOnce_meets extracted works seen)).keepsDirector mints
    touches (by decide)
  rw [upload_eq]
  apply Program.Meets.bind (Stage.step_watched uploadOnce_silent ended)
  rintro (failure | ⟨record, outcome⟩) v ⟨⟨⟨ends, frame⟩, kept⟩, heard⟩
  · exact ⟨.error failure, rfl, ends, frame, heard, kept⟩
  · exact ⟨.ok (record, outcome), rfl, ends, frame, heard, kept⟩

end Stemcells

/-- One upload of many: where it began, what it returned, and where it ended with what was heard. -/
structure Upload where
  extracted : ExtractedStemcell
  stage : Stage
  start : Surroundings
  result : Except Failure StemcellRecord
  last : Watched

namespace Upload

variable (u : Upload)

def names : String × String := u.extracted.names

/-- A stemcell of the name and version was recorded before. -/
def Repeated : Prop := ∃ record ∈ u.start.doc.stemcells, record.names = u.names

/-- The cids of the stemcells that the cloud has made for it. -/
def created : List String := u.last.now.deeds.filterMap Exchange.createdStemcell

/-- How it ended. -/
structure Ended (mints : Prop) (made : Except Failure (StemcellRecord × Outcome)) : Prop where
  result : u.result = made.map Prod.fst
  ends : UploadEnds u.extracted u.start.begin u.last.now made
  frame : Frame [.stemcells] u.start.begin u.last.now
  heard : u.last.heard = (u.stage.told "Uploading" (made.map Prod.snd)).events
  director : u.start.KeepsDirector mints u.last.now

end Upload

/-- Uploads one after the other, each from what the one before it has left. -/
inductive Uploads (mints : Prop) (s : Surroundings) : List Upload → Surroundings → Prop
  | none : Uploads mints s [] s
  | next {runs : List Upload} {u : Upload} (before : Uploads mints s runs u.start)
      (ran : (Stemcells.upload u.extracted u.stage).run.Reaches
        (Conduct.storeOnly.AnswersWatched mints) ⟨u.start.begin, []⟩ (.done u.result) u.last) :
      Uploads mints s (runs ++ [u]) u.last.now

/-- The cids that the cloud has made of one name and version. -/
def createdFor (names : String × String) (runs : List Upload) : List String :=
  (runs.filter (·.names == names)).flatMap Upload.created

theorem createdFor_append (names : String × String) (runs : List Upload) (u : Upload) :
    createdFor names (runs ++ [u]) =
      createdFor names runs ++ if u.names == names then u.created else [] := by
  cases same : u.names == names <;> simp [createdFor, same]

namespace Document

/-- The records of one name and version. -/
def named (names : String × String) (doc : Document) : List StemcellRecord :=
  doc.stemcells.filter (·.names == names)

variable {names : String × String} {doc : Document} {record : StemcellRecord}

theorem named_length (unique : (doc.stemcells.map (·.names)).Nodup) :
    (doc.named names).length ≤ 1 := by
  have once := List.nodup_iff_count_le_one.mp unique names
  rwa [List.count, List.countP_map, List.countP_eq_length_filter] at once

theorem named_eq_of_mem (unique : (doc.stemcells.map (·.names)).Nodup)
    (recorded : record ∈ doc.stemcells) : doc.named record.names = [record] := by
  have member : record ∈ doc.named record.names := List.mem_filter.mpr ⟨recorded, by simp⟩
  obtain ⟨other, only⟩ : ∃ other, doc.named record.names = [other] :=
    List.length_eq_one_iff.mp (le_antisymm (named_length unique) (List.length_pos_of_mem member))
  rw [only, List.mem_singleton] at member
  rw [only, member]

end Document

/-- The stemcells can be told apart, and their cids are taken. -/
structure Surroundings.Catalogued (s : Surroundings) : Prop where
  unique : (s.doc.stemcells.map (·.names)).Nodup
  seen : ∀ record ∈ s.doc.stemcells, record.cid ∈ s.seen .stemcell

namespace UploadEnds

variable {extracted : ExtractedStemcell} {record : StemcellRecord} {outcome : Outcome}
  {made : Except Failure (StemcellRecord × Outcome)}

/-- The stemcell that an upload has made is the one that it adds to the records. -/
theorem adds (ends : UploadEnds extracted s t made) : ∃ added : Option StemcellRecord,
    t.doc.stemcells = s.doc.stemcells ++ added.toList ∧
      t.deeds.filterMap Exchange.createdStemcell =
        s.deeds.filterMap Exchange.createdStemcell ++ added.toList.map (·.cid) ∧
      ∀ record ∈ added, s.doc.findNamed extracted.names = none ∧
        record.names = extracted.names ∧ record.cid ∈ t.seen .stemcell := by
  have same (stays : s.Stays t) : t.doc.stemcells = s.doc.stemcells ++ [] := by
    have doc : t.doc = s.doc.withDirector t.doc.directorId := stays
    rw [doc, List.append_nil]
    rfl
  cases ends with
  | found _ stays none => exact ⟨.none, same stays, by simp [none], by simp⟩
  | refused _ stays one =>
    refine ⟨.none, same stays, ?_, by simp⟩
    simp [one, Exchange.createdStemcell, ExtractedStemcell.creation]
  | made absent named taken added one =>
    refine ⟨some _, congrArg Document.stemcells added, ?_, ?_⟩
    · simp [one, Exchange.createdStemcell, ExtractedStemcell.creation]
    · rintro _ ⟨⟩
      exact ⟨absent, named, taken⟩

theorem catalogued (ends : UploadEnds extracted s t made) (catalogued : s.Catalogued)
    (seen : ∀ kind, s.seen kind ⊆ t.seen kind) : t.Catalogued := by
  obtain ⟨added, records, -, wanted⟩ := ends.adds
  constructor
  · rw [records, List.map_append, List.nodup_append]
    refine ⟨catalogued.unique, by cases added <;> simp, ?_⟩
    rintro _ before _ after rfl
    obtain ⟨old, recorded, same⟩ := List.mem_map.mp before
    obtain ⟨new, member, same'⟩ := List.mem_map.mp after
    obtain ⟨absent, named, -⟩ := wanted new (Option.mem_toList.mp member)
    exact Document.findNamed_eq_none.mp absent old recorded (same.trans (same'.symm.trans named))
  · intro record member
    obtain old | new := List.mem_append.mp (records ▸ member)
    · exact seen _ (catalogued.seen record old)
    · exact (wanted record (Option.mem_toList.mp new)).2.2

theorem grows (ends : UploadEnds extracted s t made) : s.doc.stemcells <+: t.doc.stemcells := by
  obtain ⟨added, records, -⟩ := ends.adds
  exact ⟨_, records.symm⟩

/-- What the cloud has made of a name and version is recorded. -/
theorem cids (ends : UploadEnds extracted s t made) (fresh : s.deeds = [])
    (names : String × String) : (t.doc.named names).map (·.cid) =
      (s.doc.named names).map (·.cid) ++ if extracted.names == names then
        t.deeds.filterMap Exchange.createdStemcell else [] := by
  obtain ⟨added, records, created, wanted⟩ := ends.adds
  rw [Document.named, records, List.filter_append, List.map_append, created, fresh]
  cases added with
  | none => simp [Document.named]
  | some record =>
    obtain ⟨-, named, -⟩ := wanted record rfl
    cases same : extracted.names == names <;> simp [Document.named, named, same]

/-- A record that was returned is recorded. -/
theorem recorded (ends : UploadEnds extracted s t (.ok (record, outcome))) :
    record ∈ t.doc.stemcells ∧ record.names = extracted.names := by
  cases ends with
  | found recorded stays =>
    obtain ⟨member, named⟩ := Document.findNamed_some recorded
    have doc : t.doc = s.doc.withDirector t.doc.directorId := stays
    exact ⟨by rwa [doc], named⟩
  | made absent named taken added =>
    have records : t.doc.stemcells = s.doc.stemcells ++ [record] :=
      congrArg Document.stemcells added
    exact ⟨records ▸ List.mem_append_right _ (List.mem_singleton_self _), named⟩

end UploadEnds

/-- What is known when some uploads have ended. -/
structure UploadsEnd (mints : Prop) (s : Surroundings) (runs : List Upload) (t : Surroundings) :
    Prop where
  catalogued : t.Catalogued
  made : ∀ names, (t.doc.named names).map (·.cid) =
    (s.doc.named names).map (·.cid) ++ createdFor names runs
  each : ∀ u ∈ runs, u.last.now.Catalogued ∧ (∃ made, u.Ended mints made) ∧
    u.last.now.doc.stemcells <+: t.doc.stemcells

namespace Uploads

variable {runs : List Upload}

theorem ended (uploads : Uploads mints s runs t) (catalogued : s.Catalogued) :
    UploadsEnd mints s runs t := by
  induction uploads with
  | none => exact ⟨catalogued, by simp [createdFor], by simp⟩
  | @next runs u before ran ih =>
    have works : ¬Conduct.storeOnly.StoreFails := Conduct.not_storeFails_reliableStore
    have begun : u.start.begin.Catalogued := ⟨ih.catalogued.unique, ih.catalogued.seen⟩
    obtain ⟨made, result, ends, frame, heard, director⟩ :=
      (Stemcells.upload_watched works begun.seen).ends ran
    have after : u.last.now.Catalogued := ends.catalogued begun frame.seen
    refine ⟨after, fun names => ?_, ?_⟩
    · have before : (u.start.begin.doc.named names).map (·.cid) = _ := ih.made names
      have now : (u.last.now.doc.named names).map (·.cid) = _ := ends.cids rfl names
      rw [now, before, createdFor_append, List.append_assoc]
      rfl
    · intro v member
      obtain before | now := List.mem_append.mp member
      · obtain ⟨catalogued, ended, grown⟩ := ih.each v before
        exact ⟨catalogued, ended, grown.trans ends.grows⟩
      · obtain rfl := List.mem_singleton.mp now
        exact ⟨after, ⟨made, result, ends, frame, heard, director⟩, List.prefix_refl _⟩

end Uploads

section Ended

variable {u : Upload} {made : Except Failure (StemcellRecord × Outcome)}

theorem UploadEnds.repeated_iff {extracted : ExtractedStemcell} {stage : Stage} {name : String}
    (ends : UploadEnds extracted s t made) :
    (∃ reason, (stage.told name (made.map Prod.snd)).ending = .ok (.skipped reason)) ↔
      ∃ record ∈ s.doc.stemcells, record.names = extracted.names := by
  have absent (none : s.doc.findNamed extracted.names = none) :
      ¬∃ record ∈ s.doc.stemcells, record.names = extracted.names := by
    rintro ⟨record, member, same⟩
    exact Document.findNamed_eq_none.mp none record member same
  cases ends with
  | found recorded => exact ⟨fun _ => ⟨_, Document.findNamed_some recorded⟩, fun _ => ⟨_, rfl⟩⟩
  | made none | refused none =>
    refine ⟨?_, fun recorded => absurd recorded (absent none)⟩
    rintro ⟨reason, same⟩
    cases same

theorem Upload.Ended.unasked (ended : u.Ended mints made) (again : u.Repeated) :
    u.last.now.deeds = [] := by
  obtain ⟨record, member, same⟩ := again
  cases ended.ends with
  | found _ _ none => exact none
  | made none | refused none =>
    exact absurd same (Document.findNamed_eq_none.mp none record member)

theorem Upload.Ended.failed {failure : Failure} (ended : u.Ended mints made)
    (result : u.result = .error failure) : u.start.Stays u.last.now ∧ u.created = [] := by
  obtain ⟨result', ends, -⟩ := ended
  cases ends with
  | found | made => cases result.symm.trans result'
  | refused _ stays one =>
    refine ⟨stays, ?_⟩
    rw [Upload.created, one]
    rfl

theorem Upload.Ended.returned {record : StemcellRecord} (ended : u.Ended mints made)
    (result : u.result = .ok record) :
    record ∈ u.last.now.doc.stemcells ∧ record.names = u.names ∧
      (u.start.Stays u.last.now ∧ u.Repeated ∨
        u.start.Becomes (Document.addStemcell record) u.last.now ∧ u.created = [record.cid]) := by
  obtain ⟨result', ends, -⟩ := ended
  cases made with
  | error => cases result.symm.trans result'
  | ok made =>
    obtain ⟨other, outcome⟩ := made
    obtain rfl : record = other := Except.ok.inj (result.symm.trans result')
    refine ⟨ends.recorded.1, ends.recorded.2, ?_⟩
    cases ends with
    | found recorded stays => exact .inl ⟨stays, _, Document.findNamed_some recorded⟩
    | made _ _ _ added one =>
      refine .inr ⟨added, ?_⟩
      rw [Upload.created, one]
      rfl

end Ended

/-- Where stemcells are told apart by name and version, and whatever the cloud refuses to make,
uploads make at most one stemcell of a name and version, and none where one was recorded. All
uploads that return have the one record of their name and version, which the first of them has added
at the end; the later ones are skipped. An upload that failed has changed nothing. -/
theorem Stemcells.upload_once {runs : List Upload}
    (unique : (s.doc.stemcells.map (·.names)).Nodup)
    (seen : ∀ record ∈ s.doc.stemcells, record.cid ∈ s.seen .stemcell)
    (uploads : Uploads mints s runs t) :
    (∀ names, (s.doc.named names).length + (createdFor names runs).length ≤ 1) ∧
    ∀ u ∈ runs, (u.Repeated → u.last.now.deeds = []) ∧
      (∃ step : Step, u.last.heard = step.events ∧
        ((∃ reason, step.ending = .ok (.skipped reason)) ↔ u.Repeated)) ∧
      u.start.KeepsDirector mints u.last.now ∧
      match u.result with
      | .ok record =>
        u.last.now.doc.named u.names = [record] ∧ t.doc.named u.names = [record] ∧
          (∀ v ∈ runs, v.names = u.names → ∀ other, v.result = .ok other → other = record) ∧
          (u.start.Stays u.last.now ∧ u.Repeated ∨
            u.start.Becomes (Document.addStemcell record) u.last.now ∧ u.created = [record.cid])
      | .error _ => u.start.Stays u.last.now ∧ u.created = [] := by
  have account := uploads.ended ⟨unique, seen⟩
  -- a record that was returned is the only one of its names, then and in the end
  have only (v : Upload) (member : v ∈ runs) (record : StemcellRecord)
      (result : v.result = .ok record) :
      v.last.now.doc.named v.names = [record] ∧ t.doc.named v.names = [record] := by
    obtain ⟨catalogued, ⟨made, ended⟩, grown⟩ := account.each v member
    obtain ⟨recorded, named, -⟩ := ended.returned result
    rw [← named]
    exact ⟨Document.named_eq_of_mem catalogued.unique recorded,
      Document.named_eq_of_mem account.catalogued.unique (grown.subset recorded)⟩
  refine ⟨fun names => ?_, fun u member => ?_⟩
  · have bound : (t.doc.named names).length ≤ 1 := Document.named_length account.catalogued.unique
    have lengths := congrArg List.length (account.made names)
    simp only [List.length_map, List.length_append] at lengths
    omega
  · obtain ⟨-, ⟨made, ended⟩, -⟩ := account.each u member
    refine ⟨ended.unasked, ⟨_, ended.heard, ended.ends.repeated_iff⟩, ended.director, ?_⟩
    split
    case h_1 record result =>
      obtain ⟨then', now⟩ := only u member record result
      refine ⟨then', now, fun v among same other result' => ?_, (ended.returned result).2.2⟩
      obtain ⟨-, now'⟩ := only v among other result'
      rw [same, now] at now'
      exact (List.cons.inj now').1.symm
    case h_2 failure result => exact ended.failed result

/-- The cloud refuses to make a stemcell, makes it when it is uploaded again, and is not asked when
it is uploaded once more. -/
theorem Stemcells.upload_once_retried : ∃ failed made skipped : Upload,
    Uploads True .empty [failed, made, skipped] skipped.last.now ∧
    createdFor ("linux", "1") [failed, made, skipped] = ["image"] ∧
    skipped.last.now.deeds = [] ∧ made.result = skipped.result := by
  let c := Conduct.storeOnly
  let extracted : ExtractedStemcell := ⟨⟨"linux", "1", "image.tgz", []⟩, "/tmp"⟩
  have loaded (s : Watched) (kept : s.now.doc.directorId ≠ "" → "d" = s.now.doc.directorId) :
      c.AnswersWatched True s .load _ ⟨s.now.loaded "d", s.heard⟩ :=
    (c.minting_load kept (by decide)).watched rfl
  have saved (s : Watched) (doc : Document) :
      c.AnswersWatched True s (.save doc) _ ⟨s.now.saved doc, s.heard⟩ :=
    (c.minting_save _ _).watched rfl
  have issued (s : Watched) (new : "id" ∉ s.now.ids) :
      c.AnswersWatched True s .freshId "id" ⟨s.now.issued "id", s.heard⟩ :=
    (c.minting_freshId (by decide) new).watched rfl
  have refused (s : Watched) (error : CloudError) :
      c.AnswersWatched True s (.cloud extracted.creation) (.error error)
        ⟨s.now.noted ⟨.cloud extracted.creation, .error error⟩, s.heard⟩ :=
    (c.minting_refused error trivial id).watched rfl
  have made (s : Watched) (unused : "image" ∉ s.now.seen .stemcell) :
      c.AnswersWatched True s (.cloud extracted.creation) (.ok "image")
        ⟨s.now.served extracted.creation "image", s.heard⟩ :=
    (c.minting_cloud extracted.creation "image" (by rintro _ _ ⟨⟩; exact unused)).watched rfl
  let Runs (s : Surroundings) (result : Except Failure StemcellRecord) (last : Watched) :=
    (upload extracted ⟨"stage"⟩).run.Reaches (c.AnswersWatched True) ⟨s.begin, []⟩
      (.done result) last
  obtain ⟨failure, record, first, second, third, ran, ran', ran'', unmade, cids⟩ :
      ∃ failure record first second third, Runs .empty (.error failure) first ∧
        Runs first.now (.ok record) second ∧ Runs second.now (.ok record) third ∧
        first.now.deeds.filterMap Exchange.createdStemcell = [] ∧
        second.now.deeds.filterMap Exchange.createdStemcell = ["image"] :=
    ⟨_, _, _, _, _,
      .next (c.watched_report _ _) <| .next (loaded _ (by decide)) <|
        .next (refused _ ⟨"create_stemcell", .other, "full"⟩) <| .next (c.watched_report _ _) <|
        .here _ _,
      .next (c.watched_report _ _) <| .next (loaded _ fun _ => rfl) <|
        .next (made _ (by decide)) <| .next (loaded _ fun _ => rfl) <|
        .next (issued _ (by decide)) <| .next (saved _ _) <| .next (c.watched_report _ _) <|
        .here _ _,
      .next (c.watched_report _ _) <| .next (loaded _ fun _ => rfl) <|
        .next (c.watched_report _ _) <| .here _ _, rfl, rfl⟩
  let failed : Upload := ⟨extracted, ⟨"stage"⟩, .empty, .error failure, first⟩
  let successful : Upload := ⟨extracted, ⟨"stage"⟩, first.now, .ok record, second⟩
  let skipped : Upload := ⟨extracted, ⟨"stage"⟩, second.now, .ok record, third⟩
  have uploads : Uploads True .empty ([] ++ [failed] ++ [successful] ++ [skipped]) third.now :=
    Uploads.next (u := skipped) (Uploads.next (u := successful)
      (Uploads.next (u := failed) .none ran) ran') ran''
  have none : Surroundings.empty.doc.stemcells = [] := rfl
  obtain ⟨-, each⟩ := Stemcells.upload_once (by decide) (by simp [none]) uploads
  have recorded : second.now.doc.named extracted.names = [record] :=
    (each successful (by simp)).2.2.2.1
  have again : skipped.Repeated := by
    have member : record ∈ second.now.doc.named extracted.names := by simp [recorded]
    obtain ⟨member, same⟩ := List.mem_filter.mp member
    exact ⟨record, member, eq_of_beq same⟩
  have unasked : third.now.deeds = [] := (each skipped (by simp)).1 again
  refine ⟨failed, successful, skipped, uploads, ?_, unasked, rfl⟩
  change failed.created ++ (successful.created ++ (skipped.created ++ [])) = _
  rw [Upload.created, Upload.created, Upload.created, unmade, cids, unasked]
  rfl

end Reconciler
