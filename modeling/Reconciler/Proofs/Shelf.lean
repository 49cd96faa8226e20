import Mathlib.Data.Finset.Dedup
import Mathlib.Data.Finset.Image
import Mathlib.Data.List.Nodup
import Reconciler.Workspace.Document

/-!
One kind of resource that is recorded by id and has a pointer to a current record: its records, and
the cids that the cloud has and ever had of the kind. Disks and stemcells are such kinds.
-/
namespace Reconciler

/-- Records of cloud resources. -/
class Recorded (ρ : Type) where
  recordId : ρ → String
  cloudId : ρ → String

instance : Recorded DiskRecord := ⟨DiskRecord.id, DiskRecord.cid⟩

instance : Recorded StemcellRecord := ⟨StemcellRecord.id, StemcellRecord.cid⟩

open Recorded

structure Shelf (ρ : Type) where
  records : List ρ
  pointer : String
  there : Finset String
  seen : Finset String

section Keys

variable {α : Type} {key : α → String} {records : List α} {record : α}

/-- With distinct keys a record is found under its own. -/
theorem find?_key (distinct : (records.map key).Nodup) (member : record ∈ records) :
    records.find? (fun other => key other == key record) = some record := by
  cases found : records.find? (fun other => key other == key record) with
  | none => simpa using List.find?_eq_none.mp found record member
  | some other =>
    have same : key other = key record := by simpa using List.find?_some found
    rw [List.inj_on_of_nodup_map distinct (List.mem_of_find?_eq_some found) member same]

/-- What is found first stays the first where only other entries are dropped. -/
theorem find?_filter_of_found {p q : α → Bool} (found : records.find? q = some record)
    (kept : p record = true) : (records.filter p).find? q = some record := by
  obtain ⟨fits, before, after, rfl, others⟩ := List.find?_eq_some_iff_append.mp found
  rw [List.filter_append, List.filter_cons_of_pos kept]
  refine List.find?_eq_some_iff_append.mpr ⟨fits, _, _, rfl, fun other stays => ?_⟩
  exact others other (List.mem_of_mem_filter stays)

theorem nodup_map_add {β : Type} {key : α → β} (distinct : (records.map key).Nodup)
    (new : ∀ other ∈ records, key other ≠ key record) :
    ((records ++ [record]).map key).Nodup := by
  rw [List.map_append, List.nodup_append]
  refine ⟨distinct, by simp, ?_⟩
  simp only [List.mem_map, List.map_cons, List.map_nil, List.mem_singleton]
  rintro _ ⟨other, member, rfl⟩ _ rfl
  exact new other member

end Keys

namespace Shelf

variable {ρ : Type} [Recorded ρ]

def current (d : Shelf ρ) : Option ρ :=
  if d.pointer.isEmpty then none else d.records.find? (recordId · == d.pointer)

/-- With a resource that was just made and recorded. -/
def add (record : ρ) (d : Shelf ρ) : Shelf ρ :=
  { d with
    records := d.records ++ [record]
    there := insert (cloudId record) d.there
    seen := insert (cloudId record) d.seen }

/-- Without a record, and without the pointer to it. -/
def remove (key : String) (d : Shelf ρ) : Shelf ρ :=
  { d with
    records := d.records.filter (recordId · != key)
    pointer := if d.pointer = key then "" else d.pointer }

/-- Without the first record of a resource. -/
def forget (resource : String) (d : Shelf ρ) : Shelf ρ :=
  match d.records.find? (cloudId · == resource) with
  | none => d
  | some record => d.remove (recordId record)

theorem forget_none {resource : String} {d : Shelf ρ}
    (absent : d.records.find? (cloudId · == resource) = none) : d.forget resource = d := by
  rw [forget, absent]

theorem forget_some {resource : String} {d : Shelf ρ} {record : ρ}
    (found : d.records.find? (cloudId · == resource) = some record) :
    d.forget resource = d.remove (recordId record) := by
  rw [forget, found]

/-- What is recorded fits together. -/
structure Regular (d : Shelf ρ) (ids : Finset String) : Prop where
  idsDistinct : (d.records.map recordId).Nodup
  named : ∀ record ∈ d.records, recordId record ≠ ""
  known : ∀ record ∈ d.records, recordId record ∈ ids
  cidsDistinct : (d.records.map cloudId).Nodup
  cidsSeen : ∀ record ∈ d.records, cloudId record ∈ d.seen
  pointer : d.pointer = "" ∨ ∃ record ∈ d.records, recordId record = d.pointer

/-- The cloud has nothing of the kind but what is recorded. -/
def Covered (d : Shelf ρ) : Prop := d.there ⊆ (d.records.map cloudId).toFinset

/-- The cloud has what is recorded. -/
def Stocked (d : Shelf ρ) : Prop := ∀ record ∈ d.records, cloudId record ∈ d.there

/-- The cloud has what is recorded, and nothing else of the kind. -/
def Accounted (d : Shelf ρ) : Prop := d.there = (d.records.map cloudId).toFinset

variable {d : Shelf ρ} {ids ids' : Finset String} {record : ρ}

namespace Regular

theorem mono (regular : d.Regular ids) (more : ids ⊆ ids') : d.Regular ids' :=
  { regular with known := fun record member => more (regular.known record member) }

theorem withThere (regular : d.Regular ids) (there : Finset String) :
    { d with there := there }.Regular ids := { regular with }

theorem find_id (regular : d.Regular ids) (member : record ∈ d.records) :
    d.records.find? (recordId · == recordId record) = some record :=
  find?_key regular.idsDistinct member

theorem find_cid (regular : d.Regular ids) (member : record ∈ d.records) :
    d.records.find? (cloudId · == cloudId record) = some record :=
  find?_key regular.cidsDistinct member

/-- A pointer that is not empty has its record. -/
theorem current_of_pointer (regular : d.Regular ids) (pointed : d.pointer ≠ "") :
    ∃ record ∈ d.records, recordId record = d.pointer ∧ d.current = some record := by
  obtain empty | ⟨record, member, same⟩ := regular.pointer
  · exact absurd empty pointed
  · refine ⟨record, member, same, ?_⟩
    have found := regular.find_id member
    rw [same] at found
    simp [current, pointed, found]

theorem pointTo (regular : d.Regular ids) (member : record ∈ d.records) :
    { d with pointer := recordId record }.Regular ids :=
  { regular with pointer := .inr ⟨record, member, rfl⟩ }

theorem unpoint (regular : d.Regular ids) : { d with pointer := "" }.Regular ids :=
  { regular with pointer := .inl rfl }

theorem add (regular : d.Regular ids) (named : recordId record ≠ "") (newId : recordId record ∉ ids)
    (unused : cloudId record ∉ d.seen) (more : ids ⊆ ids') (known : recordId record ∈ ids') :
    (d.add record).Regular ids' where
  idsDistinct := nodup_map_add regular.idsDistinct fun other member same =>
    newId (same ▸ regular.known other member)
  named other member := by
    obtain old | new := List.mem_append.mp member
    · exact regular.named other old
    · rw [List.mem_singleton.mp new]
      exact named
  known other member := by
    obtain old | new := List.mem_append.mp member
    · exact more (regular.known other old)
    · rw [List.mem_singleton.mp new]
      exact known
  cidsDistinct := nodup_map_add regular.cidsDistinct fun other member same =>
    unused (same ▸ regular.cidsSeen other member)
  cidsSeen other member := by
    obtain old | new := List.mem_append.mp member
    · exact Finset.mem_insert_of_mem (regular.cidsSeen other old)
    · rw [List.mem_singleton.mp new]
      exact Finset.mem_insert_self _ _
  pointer := by
    obtain empty | ⟨old, member, same⟩ := regular.pointer
    · exact .inl empty
    · exact .inr ⟨old, List.mem_append_left _ member, same⟩

theorem remove (regular : d.Regular ids) (key : String) : (d.remove key).Regular ids where
  idsDistinct := regular.idsDistinct.sublist (List.filter_sublist.map _)
  named record member := regular.named record (List.mem_of_mem_filter member)
  known record member := regular.known record (List.mem_of_mem_filter member)
  cidsDistinct := regular.cidsDistinct.sublist (List.filter_sublist.map _)
  cidsSeen record member := regular.cidsSeen record (List.mem_of_mem_filter member)
  pointer := by
    simp only [Shelf.remove]
    by_cases same : d.pointer = key
    · simp [same]
    · obtain empty | ⟨record, member, points⟩ := regular.pointer
      · simp [empty]
      · refine .inr ⟨record, List.mem_filter.mpr ⟨member, ?_⟩, by simp [points, same]⟩
        simpa [points] using same

theorem forget (regular : d.Regular ids) (resource : String) :
    (d.forget resource).Regular ids := by
  unfold Shelf.forget
  split
  · exact regular
  · exact regular.remove _

end Regular

theorem current_mem (found : d.current = some record) : record ∈ d.records := by
  unfold current at found
  split at found
  · cases found
  · exact List.mem_of_find?_eq_some found

/-- The current record is what the pointer points to. -/
theorem pointer_of_current (found : d.current = some record) :
    d.pointer ≠ "" ∧ d.pointer = recordId record := by
  unfold current at found
  split at found
  case isTrue => cases found
  case isFalse pointed =>
    have same : recordId record = d.pointer := by simpa using List.find?_some found
    exact ⟨by simpa using pointed, same.symm⟩

/-- Without a current record there is no pointer. -/
theorem Regular.current_eq_none_iff (regular : d.Regular ids) :
    d.current = none ↔ d.pointer = "" := by
  refine ⟨fun none => ?_, fun empty => by simp [current, empty]⟩
  by_contra pointed
  obtain ⟨record, -, -, current⟩ := regular.current_of_pointer pointed
  cases none.symm.trans current

/-- The pointer goes with the current record. -/
theorem pointer_remove (found : d.current = some record) :
    (d.remove (recordId record)).pointer = "" := if_pos (pointer_of_current found).2

theorem Regular.current_pointTo (regular : d.Regular ids) (member : record ∈ d.records) :
    { d with pointer := recordId record }.current = some record := by
  simp [current, regular.named record member, regular.find_id member]

theorem current_add (found : d.current = some record) (new : ρ) :
    (d.add new).current = some record := by
  unfold current at found ⊢
  split at found
  case isTrue => cases found
  case isFalse pointed => simp [add, pointed, found]

/-- Removing another record keeps the current one. -/
theorem current_remove {key : String} (found : d.current = some record)
    (other : key ≠ recordId record) : (d.remove key).current = some record := by
  obtain ⟨pointed, same⟩ := pointer_of_current found
  have unmoved : d.pointer ≠ key := fun h => other (h.symm.trans same)
  have kept : (d.records.filter (recordId · != key)).find? (recordId · == d.pointer) =
      d.records.find? (recordId · == d.pointer) := by
    rw [List.find?_filter]
    congr 1
    funext r
    by_cases points : recordId r = d.pointer
    · simp [points, unmoved]
    · simp [points]
  simpa [current, Shelf.remove, unmoved, pointed, kept] using found

/-- Forgetting another resource keeps the current record. -/
theorem Regular.current_forget {resource : String} (regular : d.Regular ids)
    (found : d.current = some record) (other : resource ≠ cloudId record) :
    (d.forget resource).current = some record := by
  unfold Shelf.forget
  split
  · exact found
  case h_2 forgotten same =>
    refine current_remove found fun alike => other ?_
    have member := List.mem_of_find?_eq_some same
    have named : cloudId forgotten = resource := by simpa using List.find?_some same
    rw [← named, List.inj_on_of_nodup_map regular.idsDistinct member (current_mem found) alike]

/-- Records of different ids are records of different resources. -/
theorem Regular.cids_ne {other : ρ} (regular : d.Regular ids) (member : record ∈ d.records)
    (member' : other ∈ d.records) (different : recordId record ≠ recordId other) :
    cloudId record ≠ cloudId other := fun same =>
  different (congrArg recordId (List.inj_on_of_nodup_map regular.cidsDistinct member member' same))

/-- A record that was added last is of another resource than those before it. -/
theorem Regular.cids_ne_added {new : ρ} (regular : (d.add new).Regular ids)
    (member : record ∈ d.records) : cloudId record ≠ cloudId new := by
  have distinct := regular.cidsDistinct
  rw [Shelf.add, List.map_append, List.nodup_append] at distinct
  exact distinct.2.2 _ (List.mem_map_of_mem member) _ (by simp)

theorem Regular.forget_eq (regular : d.Regular ids) (member : record ∈ d.records) :
    d.forget (cloudId record) = d.remove (recordId record) :=
  forget_some (regular.find_cid member)

/-- All records but the current one are being deleted, and some are left to delete. -/
structure Sweeping (now : Option ρ) (left : List ρ) (ids : Finset String) (d : Shelf ρ) :
    Prop where
  regular : d.Regular ids
  current : d.current = now
  records : ∀ record, record ∈ d.records ↔ now = some record ∨ record ∈ left
  distinct : (left.map recordId).Nodup
  unused : ∀ record ∈ left, now ≠ some record

theorem Regular.sweeping (regular : d.Regular ids) :
    d.Sweeping d.current (d.records.filter fun r => d.current.all (recordId · != recordId r))
      ids where
  regular := regular
  current := rfl
  records record := by
    rw [List.mem_filter, Option.all_eq_true]
    constructor
    · intro member
      by_cases now : d.current = some record
      · exact .inl now
      · refine .inr ⟨member, fun other current => bne_iff_ne.mpr fun same => now ?_⟩
        rwa [← List.inj_on_of_nodup_map regular.idsDistinct (current_mem current) member same]
    · rintro (current | ⟨member, -⟩)
      · exact current_mem current
      · exact member
  distinct := regular.idsDistinct.sublist (List.filter_sublist.map _)
  unused record member current := by
    have other := (List.mem_filter.mp member).2
    simp [current] at other

namespace Sweeping

variable {now : Option ρ} {left : List ρ}

theorem mono (sweeping : d.Sweeping now left ids) (more : ids ⊆ ids') :
    d.Sweeping now left ids' := { sweeping with regular := sweeping.regular.mono more }

theorem withThere (sweeping : d.Sweeping now left ids) (there : Finset String) :
    { d with there := there }.Sweeping now left ids :=
  { sweeping with regular := sweeping.regular.withThere there }

theorem member (sweeping : d.Sweeping now (record :: left) ids) : record ∈ d.records :=
  (sweeping.records record).mpr (.inr (List.mem_cons_self ..))

/-- The pointer is to another record than the one that goes. -/
theorem remove (sweeping : d.Sweeping now (record :: left) ids) :
    (d.remove (recordId record)).Sweeping now left ids where
  regular := sweeping.regular.remove _
  current := by
    cases now with
    | some kept =>
      apply current_remove sweeping.current
      intro same
      have recorded := current_mem sweeping.current
      have alike := List.inj_on_of_nodup_map sweeping.regular.idsDistinct sweeping.member recorded
        same
      exact sweeping.unused record (List.mem_cons_self ..) (congrArg some alike.symm)
    | none =>
      simp [Shelf.current, Shelf.remove, sweeping.regular.current_eq_none_iff.mp sweeping.current]
  records other := by
    have distinct := List.nodup_cons.mp sweeping.distinct
    simp only [Shelf.remove, List.mem_filter, bne_iff_ne, sweeping.records, List.mem_cons]
    constructor
    · rintro ⟨kept | rfl | waits, different⟩
      · exact .inl kept
      · exact absurd rfl different
      · exact .inr waits
    · rintro (kept | waits)
      · refine ⟨.inl kept, fun same => ?_⟩
        have recorded := (sweeping.records other).mpr (.inl kept)
        rw [List.inj_on_of_nodup_map sweeping.regular.idsDistinct recorded sweeping.member same]
          at kept
        exact sweeping.unused record (List.mem_cons_self ..) kept
      · exact ⟨.inr (.inr waits), fun same => distinct.1 (same ▸ List.mem_map_of_mem waits)⟩
  distinct := (List.nodup_cons.mp sweeping.distinct).2
  unused other waits := sweeping.unused other (List.mem_cons_of_mem _ waits)

theorem done (sweeping : d.Sweeping now [] ids) : d.records = now.toList := by
  have distinct : d.records.Nodup := .of_map recordId sweeping.regular.idsDistinct
  cases now with
  | some kept =>
    refine List.perm_singleton.mp ((List.perm_ext_iff_of_nodup distinct (by simp)).mpr fun r => ?_)
    rw [sweeping.records r]
    simp [eq_comm]
  | none =>
    apply List.eq_nil_iff_forall_not_mem.mpr
    intro r member
    simpa using (sweeping.records r).mp member

end Sweeping

namespace Covered

theorem add (covered : d.Covered) (record : ρ) : (d.add record).Covered := by
  intro cid there
  rw [Shelf.add, List.map_append, List.toFinset_append, Finset.mem_union]
  obtain rfl | old := Finset.mem_insert.mp there
  · exact .inr (by simp)
  · exact .inl (covered old)

/-- A record goes with the resource. -/
theorem remove (covered : d.Covered) (regular : d.Regular ids) (member : record ∈ d.records) :
    { d.remove (recordId record) with there := d.there.erase (cloudId record) }.Covered := by
  intro cid there
  obtain ⟨different, there⟩ := Finset.mem_erase.mp there
  obtain ⟨other, recorded, rfl⟩ := List.mem_map.mp (List.mem_toFinset.mp (covered there))
  refine List.mem_toFinset.mpr (List.mem_map_of_mem (List.mem_filter.mpr ⟨recorded, ?_⟩))
  refine bne_iff_ne.mpr fun same => different ?_
  rw [List.inj_on_of_nodup_map regular.idsDistinct recorded member same]

/-- What is not recorded is not there. -/
theorem absent {cid : String} (covered : d.Covered)
    (unknown : d.records.find? (cloudId · == cid) = none) : cid ∉ d.there := by
  intro there
  obtain ⟨record, member, same⟩ := List.mem_map.mp (List.mem_toFinset.mp (covered there))
  simpa [same] using List.find?_eq_none.mp unknown record member

/-- Where nothing is recorded nothing is there. -/
theorem nothing (covered : d.Covered) (records : d.records = []) : d.there = ∅ := by
  rw [Covered, records] at covered
  exact Finset.subset_empty.mp covered

theorem accounted (covered : d.Covered) (stocked : d.Stocked) : d.Accounted := by
  refine Finset.Subset.antisymm covered fun cid recorded => ?_
  obtain ⟨record, member, rfl⟩ := List.mem_map.mp (List.mem_toFinset.mp recorded)
  exact stocked record member

end Covered

namespace Stocked

theorem add (stocked : d.Stocked) (record : ρ) : (d.add record).Stocked := by
  intro other member
  obtain old | new := List.mem_append.mp member
  · exact Finset.mem_insert_of_mem (stocked other old)
  · rw [List.mem_singleton.mp new]
    exact Finset.mem_insert_self _ _

/-- Other records are of other resources. -/
theorem remove (stocked : d.Stocked) (regular : d.Regular ids) (member : record ∈ d.records) :
    { d.remove (recordId record) with there := d.there.erase (cloudId record) }.Stocked := by
  intro other stays
  obtain ⟨recorded, different⟩ := List.mem_filter.mp stays
  exact Finset.mem_erase.mpr ⟨regular.cids_ne recorded member (bne_iff_ne.mp different),
    stocked other recorded⟩

end Stocked

end Shelf

end Reconciler
