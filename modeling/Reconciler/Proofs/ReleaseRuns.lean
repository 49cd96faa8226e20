import Reconciler.Proofs.Footprints

/-!
Runs of what is done with release records. Records are found by name and version and otherwise
added; afterwards those of a deployment are current, and all others can go. Only a store can stop
any of it.
-/
namespace Reconciler

open Engine Repository

variable {c : Conduct} {s t : Surroundings}

/-- Records that can be told apart by their ids. -/
structure ReleasePart.Regular (d : ReleasePart) (ids : Finset String) : Prop where
  idsDistinct : (d.records.map ReleaseRecord.id).Nodup
  known : ∀ record ∈ d.records, record.id ∈ ids

theorem ReleasePart.Regular.mono {d : ReleasePart} {ids ids' : Finset String}
    (regular : d.Regular ids) (more : ids ⊆ ids') : d.Regular ids' :=
  { regular with known := fun record member => more (regular.known record member) }

theorem ReleasePart.Regular.fewer {d : ReleasePart} {ids : Finset String}
    {records : List ReleaseRecord} (regular : d.Regular ids) (less : records.Sublist d.records)
    (pointers : List String) : (ReleasePart.mk records pointers).Regular ids where
  idsDistinct := regular.idsDistinct.sublist (less.map _)
  known record member := regular.known record (less.subset member)

/-- What tells releases apart. -/
def ReleaseRecord.names (record : ReleaseRecord) : String × String := (record.name, record.version)

def ReleaseRef.names (release : ReleaseRef) : String × String := (release.name, release.version)

theorem Document.findRelease_eq {name version : String} {doc : Document} {record : ReleaseRecord}
    (found : doc.findRelease name version = some record) :
    record ∈ doc.releases ∧ record.name = name ∧ record.version = version := by
  refine ⟨List.mem_of_find?_eq_some found, ?_⟩
  simpa using List.find?_some found

theorem Document.names_eq {release : ReleaseRef} {doc : Document} {record : ReleaseRecord}
    (found : doc.findRelease release.name release.version = some record) :
    record.names = release.names := by
  obtain ⟨-, name, version⟩ := findRelease_eq found
  exact Prod.ext name version

theorem Surroundings.findRelease_congr {name version : String} (same : t.releases = s.releases) :
    t.doc.findRelease name version = s.doc.findRelease name version := by
  change t.releases.records.find? _ = s.releases.records.find? _
  rw [same]

/-- Pointing to recorded releases is not refused. -/
theorem Document.pointToReleases_eq {doc : Document} {ids : List String}
    (recorded : ∀ id ∈ ids, ∃ record ∈ doc.releases, record.id = id) :
    doc.pointToReleases ids = .ok { doc with currentReleaseIds := ids } := by
  have found : ids.find? (fun id => !doc.releases.any (·.id == id)) = none := by
    rw [List.find?_eq_none]
    intro id listed
    obtain ⟨record, member, same⟩ := recorded id listed
    simpa using ⟨record, member, same⟩
  rw [pointToReleases, found]

/-- The records are those that are found for the releases, in the same order. -/
def Document.Finds (doc : Document) (releases : List ReleaseRef) (records : List ReleaseRecord) :
    Prop :=
  records.map some = releases.map fun release => doc.findRelease release.name release.version

namespace Document.Finds

variable {doc : Document} {releases : List ReleaseRef} {records : List ReleaseRecord}

theorem ofRelease (finds : doc.Finds releases records) {release : ReleaseRef}
    (listed : release ∈ releases) :
    ∃ record ∈ records, doc.findRelease release.name release.version = some record := by
  have member : doc.findRelease release.name release.version ∈ records.map some := by
    rw [finds]
    exact List.mem_map_of_mem listed
  obtain ⟨record, listed, same⟩ := List.mem_map.mp member
  exact ⟨record, listed, same.symm⟩

theorem ofRecord (finds : doc.Finds releases records) {record : ReleaseRecord}
    (listed : record ∈ records) :
    ∃ release ∈ releases, doc.findRelease release.name release.version = some record := by
  have member : some record ∈ releases.map _ := finds ▸ List.mem_map_of_mem listed
  exact List.mem_map.mp member

/-- What is found is recorded. -/
theorem member (finds : doc.Finds releases records) {record : ReleaseRecord}
    (listed : record ∈ records) : record ∈ doc.releases := by
  obtain ⟨release, -, found⟩ := finds.ofRecord listed
  exact (findRelease_eq found).1

/-- The records are in the order of the releases. -/
theorem names (finds : doc.Finds releases records) :
    records.map (·.names) = releases.map (·.names) := by
  induction records generalizing releases with
  | nil =>
    obtain rfl := List.map_eq_nil_iff.mp finds.symm
    rfl
  | cons record records ih =>
    cases releases with
    | nil => cases finds
    | cons release rest =>
      obtain ⟨found, others⟩ := List.cons.inj finds
      rw [List.map_cons, List.map_cons, names_eq found.symm, ih others]

theorem congr (finds : s.doc.Finds releases records) (same : t.releases = s.releases) :
    t.doc.Finds releases records := by
  unfold Finds
  simp only [Surroundings.findRelease_congr same]
  exact finds

end Document.Finds

namespace Document

/-- No release is recorded under these names. -/
def lacks (doc : Document) (names : String × String) : Bool := doc.releases.all (·.names != names)

/-- The releases of a list that have no record yet, each of them once, in the order in which they
first come. -/
def unrecorded (doc : Document) (releases : List ReleaseRef) : List (String × String) :=
  ((releases.map (·.names)).filter doc.lacks).eraseDups

variable {doc later : Document} {release : ReleaseRef}

theorem unrecorded_found {record : ReleaseRecord}
    (found : doc.findRelease release.name release.version = some record)
    (rest : List ReleaseRef) : doc.unrecorded (release :: rest) = doc.unrecorded rest := by
  have known : doc.lacks release.names = false := by
    rw [lacks, List.all_eq_false]
    exact ⟨record, (findRelease_eq found).1, by simp [names_eq found]⟩
  rw [unrecorded, List.map_cons, List.filter_cons_of_neg (by simp [known]), ← unrecorded]

/-- A release without a record comes first; once it has one, the others follow. -/
theorem unrecorded_absent (new : ReleaseRecord) (named : new.names = release.names)
    (absent : doc.findRelease release.name release.version = none)
    (added : later.releases = doc.releases ++ [new]) (rest : List ReleaseRef) :
    doc.unrecorded (release :: rest) = release.names :: later.unrecorded rest := by
  have unknown : doc.lacks release.names = true := by
    rw [lacks, List.all_eq_true]
    intro record member
    have other := List.find?_eq_none.mp absent record member
    simpa [ReleaseRecord.names, ReleaseRef.names, Prod.ext_iff] using other
  have lacks (names : String × String) :
      later.lacks names = (!names == release.names && doc.lacks names) := by
    rw [Document.lacks, added, List.all_append, List.all_cons, List.all_nil, named, Bool.and_true,
      Bool.and_comm, ← Document.lacks]
    exact congrArg (!· && doc.lacks names) BEq.comm
  rw [unrecorded, List.map_cons, List.filter_cons_of_pos unknown, List.eraseDups_cons,
    List.filter_filter, unrecorded, funext lacks]

end Document

theorem Surroundings.unrecorded_congr {releases : List ReleaseRef}
    (same : t.releases = s.releases) : t.doc.unrecorded releases = s.doc.unrecorded releases := by
  have lacks : t.doc.lacks = s.doc.lacks := by
    funext names
    exact congrArg (List.all · (·.names != names)) (congrArg ReleasePart.records same)
  rw [Document.unrecorded, Document.unrecorded, lacks]

/-- Records of these names were added behind those that were there, and what was current is
current. -/
structure ReleasesAdded (names : List (String × String)) (s t : Surroundings) : Prop where
  regular : t.releases.Regular t.ids
  pointers : t.doc.currentReleaseIds = s.doc.currentReleaseIds
  records : ∃ new, t.doc.releases = s.doc.releases ++ new ∧ new.map (·.names) = names

namespace ReleasesAdded

variable {names others : List (String × String)}

theorem nothing (regular : s.releases.Regular s.ids) (frame : Frame [] s t) :
    ReleasesAdded [] s t where
  regular := by
    rw [frame.releases]
    exact regular.mono frame.ids
  pointers := congrArg ReleasePart.pointers frame.releases
  records := ⟨[], by rw [List.append_nil]; exact congrArg ReleasePart.records frame.releases, rfl⟩

/-- A record that is saved under an id that no record has. -/
theorem one {m : Surroundings} (new : ReleaseRecord) (records : m.doc.releases = s.doc.releases)
    (pointers : m.doc.currentReleaseIds = s.doc.currentReleaseIds) (ids : s.ids ⊆ m.ids)
    (regular : s.releases.Regular s.ids) (known : new.id ∈ m.ids)
    (fresh : ∀ old ∈ s.doc.releases, old.id ≠ new.id) :
    ReleasesAdded [new.names] s (m.saved (m.doc.addRelease new)) where
  regular := by
    rw [Surroundings.saved_releases, Document.addRelease, records]
    constructor
    · exact nodup_map_add regular.idsDistinct fresh
    · intro record member
      obtain old | added := List.mem_append.mp member
      · exact ids (regular.known record old)
      · rw [List.mem_singleton.mp added]
        exact known
  pointers := pointers
  records := by
    refine ⟨[new], ?_, rfl⟩
    rw [← records]
    rfl

theorem trans {u : Surroundings} (first : ReleasesAdded names s t)
    (second : ReleasesAdded others t u) : ReleasesAdded (names ++ others) s u where
  regular := second.regular
  pointers := second.pointers.trans first.pointers
  records := by
    obtain ⟨new, records, named⟩ := first.records
    obtain ⟨new', records', named'⟩ := second.records
    exact ⟨new ++ new', by rw [records', records, List.append_assoc], by simp [named, named']⟩

theorem still {u : Surroundings} (added : ReleasesAdded names s t) (frame : Frame [] t u) :
    ReleasesAdded names s u := by
  have both := added.trans (.nothing added.regular frame)
  rwa [List.append_nil] at both

/-- What was found is still found: later records do not hide it. -/
theorem find {name version : String} {record : ReleaseRecord} (added : ReleasesAdded names s t)
    (found : s.doc.findRelease name version = some record) :
    t.doc.findRelease name version = some record := by
  obtain ⟨new, more, -⟩ := added.records
  unfold Document.findRelease at found ⊢
  rw [more, List.find?_append, found, Option.some_or]

end ReleasesAdded

/-- Every release of a list has its record, and the records of these releases are current. -/
structure ReleasesRecorded (releases : List ReleaseRef) (s : Surroundings) : Prop where
  regular : s.releases.Regular s.ids
  found : ∃ records, s.doc.Finds releases records ∧
    s.doc.currentReleaseIds = records.map (·.id)

theorem Surroundings.currentReleases_congr (same : t.releases = s.releases) :
    t.doc.currentReleases = s.doc.currentReleases := by
  change t.releases.records.filter (fun r => t.releases.pointers.contains r.id) = _
  rw [same]
  rfl

namespace ReleasesRecorded

variable {releases : List ReleaseRef}

theorem congr (done : ReleasesRecorded releases s) (same : t.releases = s.releases)
    (ids : s.ids ⊆ t.ids) : ReleasesRecorded releases t where
  regular := by
    rw [same]
    exact done.regular.mono ids
  found := by
    obtain ⟨records, finds, pointers⟩ := done.found
    exact ⟨records, finds.congr same, (congrArg ReleasePart.pointers same).trans pointers⟩

theorem recorded (done : ReleasesRecorded releases s) {release : ReleaseRef}
    (listed : release ∈ releases) : ∃ record ∈ s.doc.currentReleases,
      s.doc.findRelease release.name release.version = some record := by
  obtain ⟨records, finds, pointers⟩ := done.found
  obtain ⟨record, listed, found⟩ := finds.ofRelease listed
  refine ⟨record, List.mem_filter.mpr ⟨finds.member listed, ?_⟩, found⟩
  rw [pointers, List.contains_iff_mem]
  exact List.mem_map_of_mem listed

/-- What is current was found for a release: no other record has its id. -/
theorem needed (done : ReleasesRecorded releases s) {record : ReleaseRecord}
    (current : record ∈ s.doc.currentReleases) : ∃ release ∈ releases,
      s.doc.findRelease release.name release.version = some record := by
  obtain ⟨records, finds, pointers⟩ := done.found
  obtain ⟨recorded, pointed⟩ := List.mem_filter.mp current
  rw [pointers, List.contains_iff_mem] at pointed
  obtain ⟨other, listed, alike⟩ := List.mem_map.mp pointed
  obtain ⟨release, named, found⟩ := finds.ofRecord listed
  rw [List.inj_on_of_nodup_map done.regular.idsDistinct (finds.member listed) recorded alike]
    at found
  exact ⟨release, named, found⟩

end ReleasesRecorded

/-- What is noted of a list of releases: the records that they have now, in their order, are
current, and no other records were added than those that were missing. -/
structure ReleasesNoted (releases : List ReleaseRef) (records : List ReleaseRecord)
    (s t : Surroundings) : Prop where
  regular : t.releases.Regular t.ids
  finds : t.doc.Finds releases records
  pointers : t.doc.currentReleaseIds = records.map (·.id)
  added : ∃ new, t.doc.releases = s.doc.releases ++ new ∧
    new.map (·.names) = s.doc.unrecorded releases

theorem ReleasesNoted.recorded {releases : List ReleaseRef} {records : List ReleaseRecord}
    (noted : ReleasesNoted releases records s t) : ReleasesRecorded releases t :=
  ⟨noted.regular, records, noted.finds, noted.pointers⟩

/-- The records of a deployment: one for each release that it names, all of them current. -/
structure ReleasesConverged (releases : List ReleaseRef) (s : Surroundings) : Prop where
  current : s.doc.currentReleases = s.doc.releases
  distinct : (s.doc.releases.map fun record => (record.name, record.version)).Nodup
  listed : ∀ named, named ∈ s.doc.releases.map (fun record => (record.name, record.version)) ↔
    named ∈ releases.map fun release => (release.name, release.version)

/-- Where only the current records are kept, what was found is still found: no record before it was
a match. -/
theorem ReleasesRecorded.kept {releases : List ReleaseRef} (done : ReleasesRecorded releases s)
    (kept : t.releases = ⟨s.doc.currentReleases, s.doc.currentReleaseIds⟩) (ids : s.ids ⊆ t.ids) :
    ReleasesRecorded releases t where
  regular := by
    rw [kept]
    exact (done.regular.fewer List.filter_sublist _).mono ids
  found := by
    obtain ⟨records, finds, pointers⟩ := done.found
    refine ⟨records, ?_, (congrArg ReleasePart.pointers kept).trans pointers⟩
    rw [Document.Finds, finds]
    refine List.map_congr_left fun release listed => ?_
    obtain ⟨record, current, found⟩ := done.recorded listed
    have found' : t.releases.records.find? (fun r => r.name == release.name &&
        r.version == release.version) = some record := by
      rw [kept]
      exact find?_filter_of_found found (List.mem_filter.mp current).2
    exact found.trans found'.symm

/-- The current records are those of the releases, each of them once: two of one name and version
were both found for it, so they are one. -/
theorem ReleasesRecorded.named {releases : List ReleaseRef} (done : ReleasesRecorded releases s) :
    (s.doc.currentReleases.map (·.names)).Nodup ∧
      ∀ names, names ∈ s.doc.currentReleases.map (·.names) ↔ names ∈ releases.map (·.names) := by
  have found {record : ReleaseRecord} (current : record ∈ s.doc.currentReleases) :
      s.doc.findRelease record.name record.version = some record := by
    obtain ⟨release, -, found⟩ := done.needed current
    obtain ⟨-, name, version⟩ := Document.findRelease_eq found
    rwa [name, version]
  refine ⟨List.Nodup.map_on (fun a current b current' same => ?_) ?_, fun names => ?_⟩
  · have name : a.name = b.name := congrArg Prod.fst same
    have version : a.version = b.version := congrArg Prod.snd same
    have found' := found current
    rw [name, version, found current'] at found'
    exact (Option.some.inj found').symm
  · exact (List.Nodup.of_map _ done.regular.idsDistinct).filter _
  · rw [List.mem_map, List.mem_map]
    constructor
    · rintro ⟨record, current, rfl⟩
      obtain ⟨release, listed, found⟩ := done.needed current
      exact ⟨release, listed, (Document.names_eq found).symm⟩
    · rintro ⟨release, listed, rfl⟩
      obtain ⟨record, current, found⟩ := done.recorded listed
      exact ⟨record, current, Document.names_eq found⟩

theorem ReleasesRecorded.converged {releases : List ReleaseRef} (done : ReleasesRecorded releases s)
    (kept : t.releases = ⟨s.doc.currentReleases, s.doc.currentReleaseIds⟩) :
    ReleasesConverged releases t := by
  have records : t.doc.releases = s.doc.currentReleases := congrArg ReleasePart.records kept
  obtain ⟨distinct, listed⟩ := done.named
  refine ⟨?_, ?_, ?_⟩
  · change t.releases.records.filter (fun r => t.releases.pointers.contains r.id) = t.doc.releases
    rw [records, kept]
    exact List.filter_eq_self.mpr fun record current => (List.mem_filter.mp current).2
  · rw [records]
    exact distinct
  · rw [records]
    exact listed

namespace Releases

/-- The record of a release is found or made, and a store that fails has changed nothing. -/
theorem recordOne_meets {release : ReleaseRef} (regular : s.releases.Regular s.ids) :
    Meets c .none s (recordOne release)
      (fun record t => t.doc.findRelease release.name release.version = some record ∧
        ∃ names, ReleasesAdded names s t ∧
          ∀ rest, s.doc.unrecorded (release :: rest) = names ++ t.doc.unrecorded rest)
      fun _ t => c.StoreFails ∧ ReleasesAdded [] s t := by
  unfold recordOne
  refine Meets.seq (ask_meets (Frame.refl _ s) fun t frame => ?_)
    (fun _ _ lost => ⟨lost.1, .nothing regular lost.2⟩) ?_
  · exact Surroundings.findRelease_congr frame.releases
  intro found t looked
  obtain ⟨same, before⟩ := looked
  cases found with
  | some record =>
    refine Meets.pure ⟨(Surroundings.findRelease_congr before.releases).trans same.symm, [],
      .nothing regular before, fun rest => ?_⟩
    rw [List.nil_append, Document.unrecorded_found same.symm,
      Surroundings.unrecorded_congr before.releases]
  | none =>
    let make (id : String) : ReleaseRecord := ⟨id, release.name, release.version⟩
    refine Meets.inContext (recordFresh_meets make (fun id doc => doc.addRelease (make id))
      (fun m id frame named newId known => ⟨trivial, ?_, [release.names], ?_, fun rest => ?_⟩)
      fun e u failure frame => ⟨failure.2, .nothing regular (before.trans frame)⟩)
    all_goals have now := before.trans frame
    all_goals have records : m.doc.releases = s.doc.releases :=
      congrArg ReleasePart.records now.releases
    · have absent : m.doc.findRelease release.name release.version = none :=
        (Surroundings.findRelease_congr now.releases).trans same.symm
      unfold Document.findRelease at absent ⊢
      simp [Surroundings.saved, Document.addRelease, List.find?_append, absent, make]
    · refine ReleasesAdded.one (make id) records (congrArg ReleasePart.pointers now.releases)
        now.ids regular known fun old recorded same => newId ?_
      rw [show id = old.id from same.symm]
      exact before.ids (regular.known old recorded)
    · refine Document.unrecorded_absent (make id) rfl same.symm ?_ rest
      rw [← records]
      rfl

theorem recordEach_meets {releases : List ReleaseRef} (regular : s.releases.Regular s.ids) :
    Meets c .none s (recordEach releases)
      (fun records t => t.doc.Finds releases records ∧
        ReleasesAdded (s.doc.unrecorded releases) s t)
      fun _ t => c.StoreFails ∧
        ∃ names, names <+: s.doc.unrecorded releases ∧ ReleasesAdded names s t := by
  induction releases generalizing s with
  | nil => exact Meets.pure ⟨rfl, .nothing regular (Frame.refl _ s)⟩
  | cons release rest ih =>
    refine Meets.seq (recordOne_meets regular)
      (fun _ _ lost => ⟨lost.1, [], List.nil_prefix, lost.2⟩) ?_
    intro record t noted
    obtain ⟨found, names, added, split⟩ := noted
    rw [split rest]
    refine Meets.seq (ih added.regular) (fun _ u lost => ?_) ?_
    · obtain ⟨failing, more, part, later⟩ := lost
      exact ⟨failing, names ++ more, (List.prefix_append_right_inj names).mpr part,
        added.trans later⟩
    intro records u rest
    obtain ⟨others, later⟩ := rest
    refine Meets.pure ⟨?_, added.trans later⟩
    rw [Document.Finds, List.map_cons, List.map_cons, others, later.find found]

/-- Pointing to the releases cannot be refused: each of them has its record by then. -/
theorem record_meets {releases : List ReleaseRef} (regular : s.releases.Regular s.ids) :
    Meets c .none s (record releases) (fun records t => ReleasesNoted releases records s t)
      fun _ t => c.StoreFails ∧
        ∃ names, names <+: s.doc.unrecorded releases ∧ ReleasesAdded names s t := by
  unfold record
  refine Meets.seq (recordEach_meets regular) (fun _ _ lost => lost) ?_
  intro records t all
  obtain ⟨finds, added⟩ := all
  refine Meets.bind (Q := fun _ u => ReleasesNoted releases records s u) (Meets.inContext
    (accepted_meets (fun m frame => ?_) fun _ u failure frame => ⟨failure.2, _,
      List.prefix_refl _, added.still frame⟩)) fun _ _ h => Meets.pure h
  have finds' := finds.congr frame.releases
  have added' := added.still frame
  refine ⟨_, Document.pointToReleases_eq ?_, trivial, ?_⟩
  · intro id listed
    obtain ⟨record, found, same⟩ := List.mem_map.mp listed
    exact ⟨record, finds'.member found, same⟩
  · exact ⟨⟨added'.regular.idsDistinct, added'.regular.known⟩, finds', rfl, added'.records⟩

/-- Records are deleted by their ids, and what points to them goes too. -/
theorem deleteEach_meets {items : List ReleaseRecord} {stage : Stage}
    {name : ReleaseRecord → String} :
    Meets c .none s (forEach items fun release => do
      discard <| performStep stage (name release) do
        within "Deleting release record" (Releases.delete release.id)
        return .finished)
      (fun _ t => t.releases =
        { records := s.releases.records.filter fun r => items.all (r.id != ·.id)
          pointers := s.releases.pointers.filter fun id => items.all (id != ·.id) })
      fun _ _ => c.StoreFails := by
  induction items generalizing s with
  | nil => exact Meets.pure (by simp)
  | cons item rest ih =>
    refine Meets.bind (Q := fun _ t => t.releases =
      { records := s.releases.records.filter (·.id != item.id)
        pointers := s.releases.pointers.filter (· != item.id) }) ?_ fun _ t removed => ?_
    · refine Meets.discard (Meets.performStep (Meets.bind (Meets.inContext
        (update_meets (fun _ _ => trivial) (fun m frame => ?_) fun _ _ lost _ => lost.2))
        fun _ _ h => Meets.pure h))
      rw [← frame.releases]
      rfl
    · refine ih.weaken (fun _ u done => ?_) fun _ _ h => h
      rw [done, removed, List.filter_filter, List.filter_filter]
      simp [Bool.and_comm]

theorem findCurrent_meets {g : Guard} (before : Frame [] s t) : Meets c g t findCurrent
    (fun current u => current = s.doc.currentReleases ∧ Frame [] s u)
    fun _ u => c.StoreFails ∧ Frame [] s u :=
  ask_meets before fun _ frame => Surroundings.currentReleases_congr frame.releases

/-- The records that are not current. -/
theorem findUnused_meets {g : Guard} : Meets c g s findUnused
    (fun unused t => unused = s.doc.releases.filter
      (fun r => !s.doc.currentReleases.any (·.id == r.id)) ∧ Frame [] s t)
    fun _ t => c.StoreFails ∧ Frame [] s t := by
  apply Meets.bind (ask_meets (Frame.refl _ s) fun t frame => ?_)
  · intro _ t listed
    obtain ⟨rfl, before⟩ := listed
    apply Meets.bind (findCurrent_meets before)
    intro _ u looked
    obtain ⟨rfl, frame⟩ := looked
    exact Meets.pure ⟨rfl, frame⟩
  · exact congrArg ReleasePart.records frame.releases

/-- A record is not current when nothing points to it. -/
theorem mem_unused {doc : Document} {r : ReleaseRecord} :
    r ∈ doc.releases.filter (fun r => !doc.currentReleases.any (·.id == r.id)) ↔
      r ∈ doc.releases ∧ r.id ∉ doc.currentReleaseIds := by
  simp only [List.mem_filter, Document.currentReleases, Bool.not_eq_true', List.any_eq_false,
    List.contains_iff_mem, beq_iff_eq]
  constructor
  · intro h
    exact ⟨h.1, fun pointed => h.2 r ⟨h.1, pointed⟩ rfl⟩
  · intro h
    exact ⟨h.1, fun other current same => h.2 (same ▸ current.2)⟩

/-- Exactly the current releases stay. -/
theorem deleteUnused_meets {stage : Stage} :
    Meets c .none s (deleteUnused stage)
      (fun _ t => t.releases = ⟨s.doc.currentReleases, s.doc.currentReleaseIds⟩)
      fun _ _ => c.StoreFails := by
  unfold deleteUnused
  apply Meets.seq findUnused_meets (fun _ _ lost => lost.1)
  intro unused t looked
  obtain ⟨rfl, frame⟩ := looked
  refine deleteEach_meets.weaken (fun _ u done => ?_) fun _ _ h => h
  rw [done, frame.releases]
  congr 1
  · apply List.filter_congr
    intro r recorded
    rw [Bool.eq_iff_iff, List.all_eq_true, List.contains_iff_mem]
    constructor
    · intro kept
      by_contra other
      simpa using kept r (mem_unused.mpr ⟨recorded, other⟩)
    · intro pointed item unused
      have unpointed := (mem_unused.mp unused).2
      exact bne_iff_ne.mpr fun same => unpointed (same ▸ pointed)
  · apply List.filter_eq_self.mpr
    intro id pointed
    rw [List.all_eq_true]
    intro item unused
    have unpointed := (mem_unused.mp unused).2
    exact bne_iff_ne.mpr fun same => unpointed (same ▸ pointed)

end Releases

end Reconciler
