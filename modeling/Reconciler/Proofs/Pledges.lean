import Reconciler.Proofs.DeploymentRuns
import Reconciler.Proofs.Interchange
import Reconciler.Proofs.Resumption
import Reconciler.Proofs.Watching

/-!
Stores that give back what was saved. A run over a store that keeps this pledge is a run in the
surroundings that hold the document themselves, so that what is known of all runs there holds over
the store. The store in memory keeps it for any document. The store in a file keeps it for settings
without floating point numbers and with room for the document around them; another number may be
read back as the one next to it.
-/
namespace Reconciler

open Engine Repository

variable {α κ : Type} {fits : Properties → Prop}

/-- What may be relied on in a store. -/
structure Pledge (κ : Type) where
  /-- What a state of the store says the document is. -/
  Says : κ → Document → Prop
  /-- Settings of disks that come back as they were saved. -/
  Fits : Properties → Prop

namespace Pledge

/-- The store gives back the document that was saved last, if the settings in it fit, and what fails
changes nothing. A document without a director may be given one. -/
structure Kept (pledge : Pledge κ) (store : Behaviour Effects κ) : Prop where
  given : ∀ {k l doc seen}, pledge.Says k doc → doc.SettingsFit pledge.Fits →
    store k .load (.ok seen) l → seen = { doc with directorId := seen.directorId } ∧
      (doc.directorId ≠ "" → seen.directorId = doc.directorId) ∧ pledge.Says l seen
  refused : ∀ {k l doc e}, pledge.Says k doc → store k .load (.error e) l →
    (∃ fault, e = .storage fault) ∧ pledge.Says l doc
  saved : ∀ {k l doc}, doc.SettingsFit pledge.Fits → store k (.save doc) (.ok ()) l →
    pledge.Says l doc
  unsaved : ∀ {k l doc new e}, pledge.Says k doc → store k (.save new) (.error e) l →
    (∃ fault, e = .storage fault) ∧ pledge.Says l doc

/-- A store that can do less. -/
theorem Kept.restrict {pledge : Pledge κ} {store store' : Behaviour Effects κ}
    (kept : pledge.Kept store)
    (fewer : ∀ k r reply l, store' k r reply l → store k r reply l) : pledge.Kept store' where
  given said stored gave := kept.given said stored (fewer _ _ _ _ gave)
  refused said failed := kept.refused said (fewer _ _ _ _ failed)
  saved stored took := kept.saved stored (fewer _ _ _ _ took)
  unsaved said failed := kept.unsaved said (fewer _ _ _ _ failed)

/-- The store gives a director to every document without one, or to none. -/
def Minting (pledge : Pledge κ) (mints : Prop) (store : Behaviour Effects κ) : Prop :=
  ∀ {k l doc seen}, pledge.Says k doc → store k .load (.ok seen) l →
    (mints → seen.directorId ≠ "") ∧ (¬mints → seen.directorId = doc.directorId)

/-- Nothing keeps the store from doing what it is asked. This is about single requests, and says
nothing of a run. -/
structure Works (pledge : Pledge κ) (store : Behaviour Effects κ) : Prop where
  gives : ∀ {k doc}, pledge.Says k doc → ∃ seen l, store k .load (.ok seen) l
  saves : ∀ k doc, ∃ l, store k (.save doc) (.ok ()) l

end Pledge

/-- Surroundings whose document lies in a store. It is the store that gives the document and takes
it, and the conduct says when it may fail. The document that the surroundings have is the one that
was given or taken last. -/
def Conduct.AnswersWith (c : Conduct) (store : Behaviour Effects κ) :
    Behaviour Effects (Surroundings × κ) := fun u r reply v =>
  match r, reply with
  | .load, .ok doc => store u.2 .load (.ok doc) v.2 ∧ v.1 = { u.1 with doc := doc }
  | .load, .error e => store u.2 .load (.error e) v.2 ∧ c.mayFail u.1.cloud .load ∧ v.1 = u.1
  | .save doc, .ok () => store u.2 (.save doc) (.ok ()) v.2 ∧ v.1 = u.1.saved doc
  | .save doc, .error e =>
    store u.2 (.save doc) (.error e) v.2 ∧ c.mayFail u.1.cloud (.save doc) ∧
      v.1 = u.1.noted ⟨.save doc, .error e⟩
  | r, reply => c.Answers u.1 r reply v.1 ∧ v.2 = u.2

/-- In surroundings where anything may fail the store may as well. -/
theorem Conduct.answersWith_any {c : Conduct} {store : Behaviour Effects κ}
    {u v : Surroundings × κ} {r : Request} {reply : r.Reply}
    (answered : c.AnswersWith store u r reply v) : any.AnswersWith store u r reply v := by
  cases r with
  | load =>
    cases reply with
    | ok doc => exact answered
    | error e => exact ⟨answered.1, trivial, answered.2.2⟩
  | save doc =>
    cases reply with
    | ok => exact answered
    | error e => exact ⟨answered.1, trivial, answered.2.2⟩
  | _ => exact ⟨answers_any answered.1, answered.2⟩

/-- What is saved has settings that fit where those before did. -/
def Guard.fitting (fits : Properties → Prop) : Guard
  | s, .save doc => s.doc.SettingsFit fits → doc.SettingsFit fits
  | _, _ => True

namespace Pledge

variable {pledge : Pledge κ} {store : Behaviour Effects κ} {c : Conduct}

/-- The store says what the surroundings have. -/
structure Agrees (pledge : Pledge κ) (s : Surroundings) (u : Surroundings × κ) : Prop where
  same : u.1 = s
  said : pledge.Says u.2 s.doc
  fits : s.doc.SettingsFit pledge.Fits

/-- Over a store that keeps its pledge nothing happens that could not happen without it. -/
theorem Kept.refines (kept : pledge.Kept store) :
    Program.Refines c.Answers (Guard.fitting pledge.Fits).safe (c.AnswersWith store)
      pledge.Agrees := by
  rintro _ ⟨s, k⟩ r reply ⟨t, l⟩ ⟨rfl, said, fits⟩ answered
  have unmoved (elsewhere : r ≠ .load) (unsaved : ∀ doc, r ≠ .save doc)
      (elsewise : c.Answers s r reply t ∧ l = k) :
      ∃ t', c.Answers s r reply t' ∧
        ((Guard.fitting pledge.Fits).safe s r reply t' → pledge.Agrees t' (t, l)) := by
    have same : t.doc = s.doc := by
      cases elsewise.1.step with
      | loaded => exact absurd rfl elsewhere
      | saved => exact absurd rfl (unsaved _)
      | _ => rfl
    refine ⟨t, elsewise.1, fun _ => ⟨rfl, ?_, ?_⟩⟩
    · rw [same, elsewise.2]
      exact said
    · rw [same]
      exact fits
  cases r with
  | load =>
    cases reply with
    | ok seen =>
      obtain ⟨gave, rfl⟩ := answered
      obtain ⟨same, director, told⟩ := kept.given said fits gave
      refine ⟨{ s with doc := seen }, ⟨seen.directorId, director, same, ?_⟩,
        fun _ => ⟨rfl, told, ?_⟩⟩
      · exact congrArg (fun doc => { s with doc := doc }) same
      · intro disk recorded
        rw [same] at recorded
        exact fits disk recorded
    | error e =>
      obtain ⟨failed, may, rfl⟩ := answered
      obtain ⟨fault, told⟩ := kept.refused said failed
      exact ⟨_, ⟨may, fault, rfl⟩, fun _ => ⟨rfl, told, fits⟩⟩
  | save new =>
    cases reply with
    | ok =>
      obtain ⟨took, rfl⟩ := answered
      refine ⟨s.saved new, rfl, fun safe => ?_⟩
      have fits' : new.SettingsFit pledge.Fits := safe id fits
      exact ⟨rfl, kept.saved fits' took, fits'⟩
    | error e =>
      obtain ⟨failed, may, rfl⟩ := answered
      obtain ⟨fault, told⟩ := kept.unsaved said failed
      exact ⟨_, ⟨may, fault, rfl⟩, fun _ => ⟨rfl, told, fits⟩⟩
  | _ => exact unmoved nofun nofun answered

/-- The same with a store of one of the two kinds. -/
theorem Kept.refines_minting {mints : Prop} (kept : pledge.Kept store)
    (minting : pledge.Minting mints store) :
    Program.Refines (c.AnswersMinting mints) (Guard.fitting pledge.Fits).safe (c.AnswersWith store)
      pledge.Agrees := by
  rintro s u r reply v alike answered
  obtain ⟨t, allowed, keeps⟩ := kept.refines s u r reply v alike answered
  refine ⟨t, ⟨allowed, ?_⟩, keeps⟩
  cases r with
  | load =>
    cases reply with
    | ok seen => exact minting alike.said answered.1
    | error e => trivial
  | _ => trivial

/-- Where nothing fails the store need not either. -/
theorem Works.total (works : pledge.Works store) {s : Surroundings} {u : Surroundings × κ}
    (r : Request) (alike : pledge.Agrees s u) :
    ∃ reply v, Conduct.smooth.AnswersWith store u r reply v := by
  have others : ∃ reply t, Conduct.smooth.Answers u.1 r reply t := Conduct.smooth_total u.1 r
  cases r with
  | load =>
    obtain ⟨seen, l, gave⟩ := works.gives alike.said
    exact ⟨.ok seen, (_, l), gave, rfl⟩
  | save doc =>
    obtain ⟨l, took⟩ := works.saves u.2 doc
    exact ⟨.ok (), (_, l), took, rfl⟩
  | _ =>
    obtain ⟨reply, t, answered⟩ := others
    exact ⟨reply, (t, u.2), answered, rfl⟩

end Pledge

namespace Guard

/-- Who leaves the disks alone leaves their settings alone. -/
theorem fitting_of_spares {s : Surroundings} {r : Request} (spares : Part.disks.Spares s r) :
    fitting fits s r := by
  cases r with
  | save doc =>
    intro stored disk recorded
    exact stored disk (spares.1 ▸ recorded)
  | _ => trivial

theorem fitting_heeds {x : Engine α} {parts : List Part} (touches : x.Touches parts)
    (other : .disks ∉ parts) : x.Heeds (fitting fits) :=
  touches.heeds other fun _ _ => fitting_of_spares

theorem fitting_allowsDisks : (fitting fits).AllowsDisks where
  calling _ _ _ := trivial
  migrating _ := trivial
  pointing id := by
    apply tryUpdate_heeds
    intro s new edited stored
    obtain ⟨-, rfl⟩ := Document.eq_of_pointToDisk edited
    exact stored
  forgetting id := update_heeds fun s stored disk recorded =>
    stored disk (List.mem_of_mem_filter recorded)

theorem fitting_allowsPool {pool : DiskPool} (fit : fits pool.propertiesOrEmpty) :
    (fitting fits).AllowsPool pool := by
  intro cid s _
  refine recordFresh_meets (fun id => (⟨id, cid, pool.size, pool.propertiesOrEmpty⟩ : DiskRecord))
    (fun id doc => doc.addDisk ⟨id, cid, pool.size, pool.propertiesOrEmpty⟩) ?_
    fun _ _ _ _ => trivial
  refine fun m id _ _ _ _ => ⟨fun stored disk recorded => ?_, trivial⟩
  obtain old | new := List.mem_append.mp recorded
  · exact stored disk old
  · obtain rfl := List.mem_singleton.mp new
    exact fit

end Guard

/-- The pools that a job may resolve to have settings of a kind. -/
def Manifest.PoolsFit (fits : Properties → Prop) (manifest : Manifest) : Prop :=
  ∀ name pool, manifest.diskPool name = .ok pool → fits pool.propertiesOrEmpty

/-- It is enough that the pools that are declared do, and a pool without settings. -/
theorem Manifest.poolsFit {manifest : Manifest} (empty : fits [])
    (declared : ∀ pool ∈ manifest.diskPools, fits pool.propertiesOrEmpty) :
    manifest.PoolsFit fits := by
  intro name pool resolved
  unfold diskPool at resolved
  cases known : manifest.job name with
  | error e => simp [known, bind, Except.bind] at resolved
  | ok job =>
    simp only [known, bind, Except.bind] at resolved
    split at resolved
    case h_1 =>
      cases resolved
      exact empty
    case h_2 poolName _ =>
      cases found : manifest.diskPools.find? (·.name == poolName) with
      | none =>
        rw [found] at resolved
        cases resolved
      | some pool =>
        rw [found] at resolved
        cases resolved
        exact declared pool (List.mem_of_find?_eq_some found)

namespace Deployment

theorem findCurrent_heeds {g : Guard} {settings : Settings} : (findCurrent settings).Heeds g := by
  apply Keeps.bind (Keeps.within (Instances.findCurrent_heeds settings))
  intro _
  apply Keeps.bind (Keeps.within Disks.findCurrent_heeds)
  intro _
  exact Keeps.bind (Keeps.within (Keeps.within (read_heeds _))) fun _ => Keeps.pure _

theorem delete_fitting (stage : Stage) (deployment : Deployment) :
    ((delete stage).toEngine deployment).Heeds (Guard.fitting fits) := by
  rw [delete_toEngine]
  apply Keeps.bind (Keeps.forEach fun i => Keeps.discard (Keeps.within
    (i.delete_heeds stage _ _ _ (Guard.fitting_heeds i.vm.delete_touches (by decide)))))
  intro _
  apply Keeps.bind (Keeps.forEach fun disk =>
    disk.deleteInStep_heeds Guard.fitting_allowsDisks stage _)
  intro _
  refine Keeps.bind (Keeps.forEach fun stemcell => ?_) fun _ => Keeps.pure _
  exact Guard.fitting_heeds (stemcell.deleteInStep_touches stage _) (by decide)

end Deployment

namespace Operation

/-- What the operation asks for has settings of a kind. -/
def PoolsFit (fits : Properties → Prop) : Operation → Prop
  | .deploy _ manifest _ _ _ => manifest.PoolsFit fits
  | .delete .. | .cleanUp _ => True

/-- Settings that fit stay so. -/
theorem program_heeds {operation : Operation} (pools : operation.PoolsFit fits) :
    operation.program.Heeds (Guard.fitting fits) := by
  have disks (stage : Stage) : (Disks.deleteUnused stage).Heeds (Guard.fitting fits) :=
    Disks.deleteUnused_heeds Guard.fitting_allowsDisks stage
  cases operation with
  | deploy settings manifest extracted registry tunnel =>
    apply Deployment.deploy_keeps
    case upload => exact fun _ => Guard.fitting_heeds (Stemcells.upload_touches _ _) (by decide)
    case deleteAll =>
      exact fun _ => Guard.fitting_heeds (Instances.deleteAll_touches _ _ _ _ _) (by decide)
    case create =>
      intro jobName stemcell stage
      apply Instances.create_heeds
      case makes => exact Guard.fitting_heeds (Vms.create_touches _ _) (by decide)
      case promotes => exact Guard.fitting_heeds stemcell.promote_touches (by decide)
      case allows => exact Guard.fitting_allowsDisks
      case records => exact fun name pool known => Guard.fitting_allowsPool (pools name pool known)
    case updateJobs => exact fun _ _ => Heeds.ofQuiet (Instance.updateJobs_quiet _ _ _)
    case record => exact Guard.fitting_heeds (Releases.record_touches _) (by decide)
    case stemcells =>
      exact fun _ => Guard.fitting_heeds (Stemcells.deleteUnused_touches _) (by decide)
    case releases =>
      exact fun _ => Guard.fitting_heeds (Releases.deleteUnused_touches _) (by decide)
  | cleanUp stage =>
    apply Keeps.bind (Keeps.within (disks stage))
    intro _
    apply Keeps.bind (Keeps.within
      (Guard.fitting_heeds (Stemcells.deleteUnused_touches stage) (by decide)))
    intro _
    exact Keeps.within (Guard.fitting_heeds (Releases.deleteUnused_touches stage) (by decide))
  | delete settings stage =>
    apply Keeps.bind Deployment.findCurrent_heeds
    intro found
    cases found with
    | none => exact Keeps.pure ()
    | some deployment => exact Keeps.discard (Deployment.delete_fitting stage deployment)

end Operation

/-- An operation that is run from `s`, with the document in a store. -/
def Operation.ComesWith (c : Conduct) (store : Behaviour Effects κ) (operation : Operation)
    (s : Surroundings) (k : κ) (left : Program Effects (Except Failure Unit)) (t : Surroundings)
    (l : κ) : Prop :=
  operation.program.run.Reaches (c.AnswersWith store) (s.begin, k) left (t, l)

section Use

variable {pledge : Pledge κ} {store : Behaviour Effects κ} {c : Conduct} {operation : Operation}
  {s t : Surroundings} {k l : κ}

theorem Pledge.Agrees.begin (said : pledge.Says k s.doc) (stored : s.doc.SettingsFit pledge.Fits) :
    pledge.Agrees s.begin (s.begin, k) := ⟨rfl, said, stored⟩

/-- Over a store that keeps its pledge an operation comes to nothing that it could not come to
without it, and then the store says what the document is. -/
theorem Operation.ComesWith.comes {left : Program Effects (Except Failure Unit)}
    (ran : operation.ComesWith c store s k left t l) (kept : pledge.Kept store)
    (said : pledge.Says k s.doc) (stored : s.doc.SettingsFit pledge.Fits)
    (pools : operation.PoolsFit pledge.Fits) :
    operation.Comes c s left t ∧ pledge.Says l t.doc ∧ t.doc.SettingsFit pledge.Fits := by
  have heeds : Meets c _ s.begin operation.program _ _ :=
    (operation.program_heeds pools s.begin trivial).ofAny
  obtain ⟨t, reached, rfl, said, stored⟩ := heeds.refined kept.refines (.begin said stored) ran
  exact ⟨reached, said, stored⟩

theorem Operation.ComesWith.any {left : Program Effects (Except Failure Unit)}
    (ran : operation.ComesWith c store s k left t l) :
    operation.ComesWith .any store s k left t l :=
  ran.mono fun _ _ _ _ => Conduct.answersWith_any

/-- Where nothing fails an operation comes to its end over a store that works. -/
theorem Operation.exists_comesWith (operation : Operation) (kept : pledge.Kept store)
    (works : pledge.Works store) (said : pledge.Says k s.doc) (stored : s.doc.SettingsFit pledge.Fits)
    (pools : operation.PoolsFit pledge.Fits) :
    ∃ result t l, operation.ComesWith .smooth store s k (.done result) t l := by
  have heeds : Meets .smooth _ s.begin operation.program _ _ :=
    (operation.program_heeds pools s.begin trivial).ofAny
  obtain ⟨result, ⟨t, l⟩, ran⟩ := heeds.exists_done kept.refines (fun _ _ => works.total)
    (.begin said stored)
  exact ⟨result, t, l, ran⟩

end Use

/-- As surroundings answer whose document lies in a store, while someone listens. -/
def Conduct.AnswersWatchedWith (c : Conduct) (store : Behaviour Effects κ) :
    Behaviour Effects (Watched × κ) := fun u r reply v =>
  c.AnswersWith store (u.1.now, u.2) r reply (v.1.now, v.2) ∧
    Overheard u.1.heard r reply v.1.heard

section Listening

variable {pledge : Pledge κ} {store : Behaviour Effects κ} {c : Conduct} {mints : Prop}

/-- Listeners hear nothing else over a store that keeps its pledge. -/
theorem Pledge.Kept.refines_watched (kept : pledge.Kept store)
    (minting : pledge.Minting mints store) :
    Program.Refines (c.AnswersWatched mints)
      (fun w r reply v => (Guard.fitting pledge.Fits).safe w.now r reply v.now)
      (c.AnswersWatchedWith store)
      fun w u => u.1 = w ∧ pledge.Agrees w.now (w.now, u.2) := by
  rintro _ ⟨w, k⟩ r reply ⟨v, l⟩ ⟨rfl, alike⟩ ⟨answered, overheard⟩
  obtain ⟨t, allowed, keeps⟩ := kept.refines_minting minting _ _ r reply _ alike answered
  refine ⟨⟨t, v.heard⟩, ⟨allowed, overheard⟩, fun safe => ?_⟩
  obtain ⟨rfl, said, stored⟩ := keeps safe
  exact ⟨rfl, rfl, said, stored⟩

theorem Pledge.Kept.watched {x : Engine α} {left : Program Effects (Except Failure α)}
    {w v : Watched} {k l : κ} (kept : pledge.Kept store) (minting : pledge.Minting mints store)
    (heeds : x.Heeds (Guard.fitting pledge.Fits)) (said : pledge.Says k w.now.doc)
    (stored : w.now.doc.SettingsFit pledge.Fits)
    (ran : x.run.Reaches (c.AnswersWatchedWith store) (w, k) left (v, l)) :
    x.run.Reaches (c.AnswersWatched mints) w left v ∧ pledge.Says l v.now.doc := by
  have safely : x.run.Meets (c.AnswersWatched mints)
      (fun w r reply v => (Guard.fitting pledge.Fits).safe w.now r reply v.now) _ w :=
    (heeds w.now trivial).along fun _ _ _ _ answered => Conduct.answers_any answered.1.1
  obtain ⟨_, reached, rfl, -, said, -⟩ :=
    safely.refined (kept.refines_watched minting) ⟨rfl, rfl, said, stored⟩ ran
  exact ⟨reached, said⟩

end Listening

end Reconciler
