import Reconciler.Proofs.EngineRuns
import Reconciler.Proofs.Shelf

/-!
The parts that a workspace and its cloud fall into: the machine, the disks, the stemcells, the
releases and the director id. Each function of the engine touches few of them. What it does not
touch is the same after any run of it, and `Frame` collects that with what every run keeps.
-/
namespace Reconciler

inductive Part
  | machine
  | disks
  | stemcells
  | releases
  | director
  deriving DecidableEq

/-- The current machine, and the machines in the cloud. -/
structure MachinePart where
  current : String
  there : Finset String
  seen : Finset String
  /-- The machines made in this run. -/
  made : List String

structure ReleasePart where
  records : List ReleaseRecord
  pointers : List String

namespace Exchange

/-- The machine that was made. -/
def made : Exchange → Option String
  | ⟨.cloud (.createVm ..), .ok cid⟩ => some cid
  | _ => none

/-- The disk and the machine of an attempt to attach. -/
def attached : Exchange → Option (String × String)
  | ⟨.cloud (.attachDisk vm disk), _⟩ => some (disk, vm)
  | _ => none

end Exchange

namespace Surroundings

def machine (s : Surroundings) : MachinePart :=
  ⟨s.doc.currentVmCid, s.cloud .vm, s.seen .vm, s.calls.filterMap Exchange.made⟩

def disks (s : Surroundings) : Shelf DiskRecord :=
  ⟨s.doc.disks, s.doc.currentDiskId, s.cloud .disk, s.seen .disk⟩

/-- Which disk was to be attached to which machine in this run. -/
def attachments (s : Surroundings) : List (String × String) :=
  s.calls.filterMap Exchange.attached

def stemcells (s : Surroundings) : Shelf StemcellRecord :=
  ⟨s.doc.stemcells, s.doc.currentStemcellId, s.cloud .stemcell, s.seen .stemcell⟩

def releases (s : Surroundings) : ReleasePart := ⟨s.doc.releases, s.doc.currentReleaseIds⟩

section Saved

variable (s : Surroundings) (doc : Document)

@[simp] theorem saved_machine :
    (s.saved doc).machine = { s.machine with current := doc.currentVmCid } := by
  simp [saved, machine, Exchange.made]

@[simp] theorem saved_disks :
    (s.saved doc).disks = { s.disks with records := doc.disks, pointer := doc.currentDiskId } := rfl

@[simp] theorem saved_attachments : (s.saved doc).attachments = s.attachments := by
  simp [saved, attachments, Exchange.attached]

@[simp] theorem saved_stemcells : (s.saved doc).stemcells =
    { s.stemcells with records := doc.stemcells, pointer := doc.currentStemcellId } := rfl

@[simp] theorem saved_releases :
    (s.saved doc).releases = ⟨doc.releases, doc.currentReleaseIds⟩ := rfl

end Saved

end Surroundings

/-- The part that a call to the cloud changes. -/
def CloudCall.part : CloudCall → Option Part
  | .createVm .. | .deleteVm _ => some .machine
  | .createDisk .. | .deleteDisk _ | .attachDisk .. | .detachDisk .. => some .disks
  | .createStemcell .. | .deleteStemcell _ => some .stemcells
  | .hasVm _ | .setVmMetadata .. => none

namespace Part

/-- Documents that agree on a part. -/
def Agree : Part → Document → Document → Prop
  | .machine, d, e => e.currentVmCid = d.currentVmCid
  | .disks, d, e => e.disks = d.disks ∧ e.currentDiskId = d.currentDiskId
  | .stemcells, d, e => e.stemcells = d.stemcells ∧ e.currentStemcellId = d.currentStemcellId
  | .releases, d, e => e.releases = d.releases ∧ e.currentReleaseIds = d.currentReleaseIds
  | .director, d, e => e.directorId = d.directorId

/-- A request that leaves a part alone. -/
def Spares (p : Part) : Guard
  | s, .save doc => p.Agree s.doc doc
  | _, .cloud call => call.part ≠ some p
  | _, _ => True

/-- Surroundings that agree on a part. A director id may be given once. -/
def Same : Part → Surroundings → Surroundings → Prop
  | .machine, s, t => t.machine = s.machine
  | .disks, s, t => t.disks = s.disks ∧ t.attachments = s.attachments
  | .stemcells, s, t => t.stemcells = s.stemcells
  | .releases, s, t => t.releases = s.releases
  | .director, s, t => s.doc.directorId ≠ "" → t.doc.directorId = s.doc.directorId

theorem Same.refl (p : Part) (s : Surroundings) : p.Same s s := by
  cases p with
  | director => exact fun _ => rfl
  | disks => exact ⟨rfl, rfl⟩
  | _ => rfl

theorem Same.trans {p : Part} {s t u : Surroundings} (first : p.Same s t) (second : p.Same t u) :
    p.Same s u := by
  cases p with
  | director =>
    intro given
    have kept := first given
    rw [second (kept ▸ given), kept]
  | disks => exact ⟨second.1.trans first.1, second.2.trans first.2⟩
  | _ => exact Eq.trans second first

theorem Same.loaded (p : Part) {s : Surroundings} {id : String}
    (kept : s.doc.directorId ≠ "" → id = s.doc.directorId) : p.Same s (s.loaded id) := by
  cases p with
  | director => exact kept
  | disks => exact ⟨rfl, rfl⟩
  | _ => rfl

/-- An exchange that says nothing of machines made or disks attached. -/
theorem Same.noted (p : Part) {s : Surroundings} {e : Exchange} (made : e.made = none)
    (attached : e.attached = none) : p.Same s (s.noted e) := by
  cases p with
  | director => exact fun _ => rfl
  | machine => simp [Same, Surroundings.machine, Surroundings.noted, made]
  | disks => exact ⟨rfl, by simp [Surroundings.attachments, Surroundings.noted, attached]⟩
  | _ => rfl

theorem Same.saved {p : Part} {s : Surroundings} {doc : Document} (agree : p.Agree s.doc doc) :
    p.Same s (s.saved doc) := by
  cases p with
  | director => exact fun _ => agree
  | machine =>
    change (s.saved doc).machine = s.machine
    rw [Surroundings.saved_machine, show doc.currentVmCid = _ from agree]
    rfl
  | disks =>
    refine ⟨?_, Surroundings.saved_attachments s doc⟩
    rw [Surroundings.saved_disks, agree.1, agree.2]
    rfl
  | stemcells =>
    change (s.saved doc).stemcells = s.stemcells
    rw [Surroundings.saved_stemcells, agree.1, agree.2]
    rfl
  | releases =>
    change (s.saved doc).releases = s.releases
    rw [Surroundings.saved_releases, agree.1, agree.2]
    rfl

/-- A call that was answered with an error leaves the parts that it is not about. -/
theorem Same.failed {p : Part} {s : Surroundings} {call : CloudCall} {error : CloudError}
    (other : call.part ≠ some p) : p.Same s (s.noted ⟨.cloud call, .error error⟩) := by
  cases call with
  | attachDisk vm disk =>
    cases p with
    | disks => exact absurd rfl other
    | director => exact fun _ => rfl
    | machine => simp [Same, Surroundings.machine, Surroundings.noted, Exchange.made]
    | _ => rfl
  | _ => exact Same.noted p rfl rfl

theorem Same.served {p : Part} {s : Surroundings} {call : CloudCall} {answer : call.Answer}
    (other : call.part ≠ some p) : p.Same s (s.served call answer) := by
  cases p with
  | director => exact fun _ => rfl
  | releases => rfl
  | machine =>
    cases call with
    | createVm | deleteVm => exact absurd rfl other
    | _ => simp [Same, Surroundings.machine, Surroundings.served, Exchange.made, Holdings.after,
        Holdings.everAfter, CloudCall.created, CloudCall.deleted, Holdings.add, Holdings.drop]
  | disks =>
    cases call with
    | createDisk | deleteDisk | attachDisk | detachDisk => exact absurd rfl other
    | _ => simp [Same, Surroundings.disks, Surroundings.attachments, Surroundings.served,
        Exchange.attached, Holdings.after, Holdings.everAfter, CloudCall.created,
        CloudCall.deleted, Holdings.add, Holdings.drop]
  | stemcells =>
    cases call with
    | createStemcell | deleteStemcell => exact absurd rfl other
    | _ => simp [Same, Surroundings.stemcells, Surroundings.served, Holdings.after,
        Holdings.everAfter, CloudCall.created, CloudCall.deleted, Holdings.add, Holdings.drop]

/-- A request that leaves a part alone does so however it is answered. -/
theorem Spares.same {p : Part} {s t : Surroundings} {r : Request} (spared : p.Spares s r)
    (step : s.Step r t) : p.Same s t := by
  cases step with
  | same => exact Same.refl p s
  | told => exact Same.noted p rfl rfl
  | served => exact Same.served spared
  | refused => exact Same.failed spared
  | loaded kept => exact Same.loaded p kept
  | saved => exact Same.saved spared
  | unsaved => exact Same.noted p rfl rfl
  | issued =>
    cases p with
    | director => exact fun _ => rfl
    | disks => exact ⟨rfl, rfl⟩
    | _ => rfl

end Part

/-- What every run keeps, and that only the given parts may have changed. -/
structure Frame (parts : List Part) (s t : Surroundings) : Prop where
  same : ∀ p, p ∉ parts → p.Same s t
  ids : s.ids ⊆ t.ids
  seen : ∀ kind, s.seen kind ⊆ t.seen kind
  calls : s.calls <+: t.calls

namespace Frame

variable {parts parts' : List Part} {s t u : Surroundings}

theorem refl (parts : List Part) (s : Surroundings) : Frame parts s s where
  same p _ := Part.Same.refl p s
  ids := Finset.Subset.refl _
  seen _ := Finset.Subset.refl _
  calls := List.prefix_refl _

theorem trans (first : Frame parts s t) (second : Frame parts t u) : Frame parts s u where
  same p other := (first.same p other).trans (second.same p other)
  ids := first.ids.trans second.ids
  seen kind := (first.seen kind).trans (second.seen kind)
  calls := first.calls.trans second.calls

theorem weaken (valid : Frame parts s t) (more : parts ⊆ parts') : Frame parts' s t where
  same p other := valid.same p fun member => other (more member)
  ids := valid.ids
  seen := valid.seen
  calls := valid.calls

theorem ofStep {r : Request} (step : s.Step r t) (spared : ∀ p, p ∉ parts → p.Spares s r) :
    Frame parts s t where
  same p other := (spared p other).same step
  ids := by
    cases step with
    | issued => exact Finset.subset_insert _ _
    | _ => exact Finset.Subset.refl _
  seen kind := by
    cases step with
    | served => exact Holdings.subset_everAfter _ _ _ kind
    | _ => exact Finset.Subset.refl _
  calls := step.calls

theorem loaded {id : String} (kept : s.doc.directorId ≠ "" → id = s.doc.directorId) :
    Frame parts s (s.loaded id) := ofStep (.loaded kept) fun _ _ => trivial

theorem issued {id : String} (named : id ≠ "") (new : id ∉ s.ids) :
    Frame parts s (s.issued id) := ofStep (.issued named new) fun _ _ => trivial

theorem noted {e : Exchange} (made : e.made = none) (attached : e.attached = none) :
    Frame parts s (s.noted e) where
  same p _ := .noted p made attached
  ids := Finset.Subset.refl _
  seen _ := Finset.Subset.refl _
  calls := List.prefix_append _ _

theorem machine_of (valid : Frame parts s t) (other : .machine ∉ parts) : t.machine = s.machine :=
  valid.same _ other

theorem machine (valid : Frame [] s t) : t.machine = s.machine := valid.machine_of List.not_mem_nil

theorem disks_of (valid : Frame parts s t) (other : .disks ∉ parts) : t.disks = s.disks :=
  (valid.same _ other).1

theorem disks (valid : Frame [] s t) : t.disks = s.disks := valid.disks_of List.not_mem_nil

theorem attachments_of (valid : Frame parts s t) (other : .disks ∉ parts) :
    t.attachments = s.attachments := (valid.same _ other).2

theorem attachments (valid : Frame [] s t) : t.attachments = s.attachments :=
  valid.attachments_of List.not_mem_nil

theorem stemcells_of (valid : Frame parts s t) (other : .stemcells ∉ parts) :
    t.stemcells = s.stemcells := valid.same _ other

theorem stemcells (valid : Frame [] s t) : t.stemcells = s.stemcells :=
  valid.stemcells_of List.not_mem_nil

theorem releases_of (valid : Frame parts s t) (other : .releases ∉ parts) :
    t.releases = s.releases := valid.same _ other

theorem releases (valid : Frame [] s t) : t.releases = s.releases :=
  valid.releases_of List.not_mem_nil

/-- Nothing of the document has changed but that it may have its director now. -/
theorem doc (valid : Frame [] s t) : t.doc = { s.doc with directorId := t.doc.directorId } := by
  have machine := congrArg MachinePart.current valid.machine
  have diskRecords := congrArg Shelf.records valid.disks
  have diskPointer := congrArg Shelf.pointer valid.disks
  have stemcellRecords := congrArg Shelf.records valid.stemcells
  have stemcellPointer := congrArg Shelf.pointer valid.stemcells
  have releaseRecords := congrArg ReleasePart.records valid.releases
  have releasePointers := congrArg ReleasePart.pointers valid.releases
  rw [Document.mk.injEq]
  exact ⟨rfl, machine, stemcellPointer, diskPointer, releasePointers, diskRecords, stemcellRecords,
    releaseRecords⟩

end Frame

end Reconciler
