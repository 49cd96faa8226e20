import Reconciler.Proofs.Records

/-!
Calls to the repositories. Each belongs to one part of the workspace, and each does one of few
things with the document that it loads: it only looks at it, or it saves what it makes of it, with
or without a fresh identifier, unless it is refused. What a call may save is told from its arguments
and the document alone, whatever the store is like, and is one of few changes to one part.
-/
namespace Reconciler

open Repository

namespace Document

variable {doc new : Document}

/-- The changes that are made to a part of a document, some with an identifier that was drawn for
it. A pointer is only set to what is recorded. -/
inductive Change : Part → Document → Option String → Document → Prop
  | setCurrentVm (doc : Document) (cid : String) : Change .machine doc none (doc.setCurrentVm cid)
  | pointToDisk {doc : Document} {id : String} (recorded : id ∈ doc.disks.map (·.id)) :
      Change .disks doc none { doc with currentDiskId := id }
  | clearCurrentDisk (doc : Document) : Change .disks doc none doc.clearCurrentDisk
  | addDisk (doc : Document) (record : DiskRecord) :
      Change .disks doc (some record.id) (doc.addDisk record)
  | removeDisk (doc : Document) (id : String) : Change .disks doc none (doc.removeDisk id)
  | pointToStemcell {doc : Document} {id : String} (recorded : id ∈ doc.stemcells.map (·.id)) :
      Change .stemcells doc none { doc with currentStemcellId := id }
  | clearCurrentStemcell (doc : Document) : Change .stemcells doc none doc.clearCurrentStemcell
  | addStemcell {doc : Document} (record : StemcellRecord)
      (alone : doc.stemcellCollision record.name record.version record.cid = none) :
      Change .stemcells doc (some record.id) (doc.addStemcell record)
  | removeStemcell (doc : Document) (id : String) :
      Change .stemcells doc none (doc.removeStemcell id)
  | pointToReleases {doc : Document} {ids : List String}
      (recorded : ∀ id ∈ ids, id ∈ doc.releases.map (·.id)) :
      Change .releases doc none { doc with currentReleaseIds := ids }
  | clearCurrentReleases (doc : Document) : Change .releases doc none doc.clearCurrentReleases
  | addRelease (doc : Document) (record : ReleaseRecord) :
      Change .releases doc (some record.id) (doc.addRelease record)
  | removeRelease (doc : Document) (id : String) :
      Change .releases doc none (doc.removeRelease id)

/-- The other parts are as they were. -/
theorem Change.agree {p q : Part} {drawn : Option String} (change : Change p doc drawn new)
    (other : q ≠ p) : q.Agree doc new := by
  cases change <;> cases q <;> first | exact absurd rfl other | exact ⟨rfl, rfl⟩ | rfl

end Document

inductive RepositoryCall
  | currentVm
  | setCurrentVm (cid : String)
  | clearCurrentVm
  | currentDisk
  | setCurrentDisk (id : String)
  | clearCurrentDisk
  | saveDisk (cid : String) (size : UInt64) (properties : Properties)
  | findDisk (cid : String)
  | allDisks
  | deleteDisk (id : String)
  | currentStemcell
  | setCurrentStemcell (id : String)
  | clearCurrentStemcell
  | saveStemcell (name version cid : String)
  | findStemcell (name version : String)
  | allStemcells
  | deleteStemcell (id : String)
  | currentReleases
  | setCurrentReleases (ids : List String)
  | clearCurrentReleases
  | saveRelease (name version : String)
  | findRelease (name version : String)
  | allReleases
  | deleteRelease (id : String)

namespace RepositoryCall

/-- The call without what it returns. -/
def program : RepositoryCall → Engine Unit
  | .currentVm => discard Vms.current
  | .setCurrentVm cid => Vms.setCurrent cid
  | .clearCurrentVm => Vms.clearCurrent
  | .currentDisk => discard Disks.current
  | .setCurrentDisk id => Disks.setCurrent id
  | .clearCurrentDisk => Disks.clearCurrent
  | .saveDisk cid size properties => discard (Disks.save cid size properties)
  | .findDisk cid => discard (Disks.find cid)
  | .allDisks => discard Disks.all
  | .deleteDisk id => Disks.delete id
  | .currentStemcell => discard Stemcells.current
  | .setCurrentStemcell id => Stemcells.setCurrent id
  | .clearCurrentStemcell => Stemcells.clearCurrent
  | .saveStemcell name version cid => discard (Stemcells.save name version cid)
  | .findStemcell name version => discard (Stemcells.find name version)
  | .allStemcells => discard Stemcells.all
  | .deleteStemcell id => Stemcells.delete id
  | .currentReleases => discard Releases.current
  | .setCurrentReleases ids => Releases.setCurrent ids
  | .clearCurrentReleases => Releases.clearCurrent
  | .saveRelease name version => discard (Releases.save name version)
  | .findRelease name version => discard (Releases.find name version)
  | .allReleases => discard Releases.all
  | .deleteRelease id => Releases.delete id

/-- The part of the workspace that the call is about. -/
def part : RepositoryCall → Part
  | .currentVm | .setCurrentVm _ | .clearCurrentVm => .machine
  | .currentDisk | .setCurrentDisk _ | .clearCurrentDisk | .saveDisk .. | .findDisk _ | .allDisks
  | .deleteDisk _ => .disks
  | .currentStemcell | .setCurrentStemcell _ | .clearCurrentStemcell | .saveStemcell ..
  | .findStemcell .. | .allStemcells | .deleteStemcell _ => .stemcells
  | .currentReleases | .setCurrentReleases _ | .clearCurrentReleases | .saveRelease ..
  | .findRelease .. | .allReleases | .deleteRelease _ => .releases

/-- What is done with the document that was loaded. -/
inductive Use
  | looks
  /-- Saves another one. -/
  | updates (edit : Document → Document)
  /-- Saves another one, or is refused. -/
  | edits (edit : Document → Except StateFault Document)
  /-- Saves one with a fresh identifier in it, or is refused before the identifier is drawn. -/
  | records (edit : Document → Except StateFault (String → Document))

namespace Use

def program : Use → Engine Unit
  | .looks => discard look
  | .updates edit => update edit
  | .edits edit => tryUpdate edit
  | .records edit => change fun doc => do
    let add ← Engine.consistent (edit doc)
    return ((), add (← Engine.freshId))

/-- What may be saved in place of a document, and with which fresh identifier. -/
inductive Saves : Use → Document → Option String → Document → Prop
  | updates {edit : Document → Document} {doc : Document} :
      Saves (.updates edit) doc none (edit doc)
  | edits {edit : Document → Except StateFault Document} {doc new : Document}
      (edited : edit doc = .ok new) : Saves (.edits edit) doc none new
  | records {edit : Document → Except StateFault (String → Document)} {doc : Document}
      {add : String → Document} {id : String} (edited : edit doc = .ok add) :
      Saves (.records edit) doc (some id) (add id)

end Use

def use : RepositoryCall → Use
  | .currentVm | .currentDisk | .findDisk _ | .allDisks | .currentStemcell | .findStemcell ..
  | .allStemcells | .currentReleases | .findRelease .. | .allReleases => .looks
  | .setCurrentVm cid => .updates (Document.setCurrentVm cid)
  | .clearCurrentVm => .updates (Document.setCurrentVm "")
  | .setCurrentDisk id => .edits (Document.pointToDisk id)
  | .clearCurrentDisk => .updates Document.clearCurrentDisk
  | .saveDisk cid size properties => .records fun doc =>
    .ok fun id => doc.addDisk ⟨id, cid, size, properties⟩
  | .deleteDisk id => .updates (Document.removeDisk id)
  | .setCurrentStemcell id => .edits (Document.pointToStemcell id)
  | .clearCurrentStemcell => .updates Document.clearCurrentStemcell
  | .saveStemcell name version cid => .records fun doc =>
    match doc.stemcellCollision name version cid with
    | some fault => .error fault
    | none => .ok fun id => doc.addStemcell ⟨id, name, version, cid⟩
  | .deleteStemcell id => .updates (Document.removeStemcell id)
  | .setCurrentReleases ids => .edits (Document.pointToReleases ids)
  | .clearCurrentReleases => .updates Document.clearCurrentReleases
  | .saveRelease name version => .records fun doc =>
    .ok fun id => doc.addRelease ⟨id, name, version⟩
  | .deleteRelease id => .updates (Document.removeRelease id)

/-- What the call may save in place of a document. -/
def Saves (call : RepositoryCall) : Document → Option String → Document → Prop := call.use.Saves

theorem Saves.change {call : RepositoryCall} {doc new : Document} {drawn : Option String}
    (saves : call.Saves doc drawn new) : doc.Change call.part drawn new := by
  cases call <;> cases saves
  case setCurrentVm | clearCurrentVm => exact .setCurrentVm doc _
  case clearCurrentDisk => exact .clearCurrentDisk doc
  case deleteDisk => exact .removeDisk doc _
  case clearCurrentStemcell => exact .clearCurrentStemcell doc
  case deleteStemcell => exact .removeStemcell doc _
  case clearCurrentReleases => exact .clearCurrentReleases doc
  case deleteRelease => exact .removeRelease doc _
  case setCurrentDisk.edits edited =>
    obtain ⟨recorded, rfl⟩ := Document.eq_of_pointToDisk edited
    exact .pointToDisk recorded
  case setCurrentStemcell.edits edited =>
    obtain ⟨recorded, rfl⟩ := Document.eq_of_pointToStemcell edited
    exact .pointToStemcell recorded
  case setCurrentReleases.edits edited =>
    obtain ⟨recorded, rfl⟩ := Document.eq_of_pointToReleases edited
    exact .pointToReleases recorded
  case saveDisk.records cid size properties add id edited =>
    cases edited
    exact .addDisk doc ⟨id, cid, size, properties⟩
  case saveStemcell.records name version cid add id edited =>
    dsimp only at edited
    split at edited
    case h_1 => cases edited
    case h_2 alone =>
      cases edited
      exact .addStemcell ⟨id, name, version, cid⟩ alone
  case saveRelease.records name version add id edited =>
    cases edited
    exact .addRelease doc ⟨id, name, version⟩

theorem discard_read {α : Type} (f : Document → α) :
    discard (do return f (← look) : Engine α) = discard look := by
  simp [discard, Functor.discard, LawfulFunctor.map_const]

theorem discard_change {α : Type} (edit : Document → Engine (α × Document)) :
    (discard (change edit) : Engine Unit) =
      change fun doc => do return ((), (← edit doc).2) := by
  simp [discard, Functor.discard, LawfulFunctor.map_const, change]

/-- Each call is a look, an edit or a record. -/
theorem program_eq (call : RepositoryCall) : call.program = call.use.program := by
  cases call with
  | currentVm | currentDisk | findDisk | allDisks | currentStemcell | findStemcell | allStemcells
  | currentReleases | findRelease | allReleases => exact discard_read _
  | saveDisk | saveRelease => exact discard_change _
  | saveStemcell name version cid =>
    refine (discard_change _).trans (congrArg change (funext fun doc => ?_))
    dsimp only
    cases doc.stemcellCollision name version cid with
    | some fault => rfl
    | none => rfl
  | _ => rfl

end RepositoryCall

end Reconciler
