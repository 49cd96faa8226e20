import Reconciler.Proofs.Footprints
import Reconciler.Proofs.Operations

/-!
The director of a workspace. A store gives one to every document without one, or it never does. In
both cases a deployment that returned has found its director, and no run changes it after that.
-/
namespace Reconciler

open Engine Repository

/-- As surroundings answer whose store gives a director to every document without one when it is
looked at, or whose store never gives one. -/
def Conduct.AnswersMinting (c : Conduct) (mints : Prop) : Behaviour Effects Surroundings :=
  fun s r reply t => c.Answers s r reply t ∧
    match r, reply with
    | .load, .ok doc =>
      (mints → doc.directorId ≠ "") ∧ (¬mints → doc.directorId = s.doc.directorId)
    | _, _ => True

/-- As `Comes`, where anything may fail, with a store of one of the two kinds. -/
def Operation.ComesMinting (mints : Prop) (operation : Operation) (s : Surroundings)
    (left : Program Effects (Except Failure Unit)) (t : Surroundings) : Prop :=
  operation.program.run.Reaches (Conduct.any.AnswersMinting mints) s.begin left t

/-- The store gives no other director to the document. -/
def Surroundings.Directed (mints : Prop) (s : Surroundings) : Prop := mints → s.doc.directorId ≠ ""

variable {mints : Prop} {s t : Surroundings} {α β : Type}

theorem Operation.ComesMinting.comes {operation : Operation}
    {left : Program Effects (Except Failure Unit)} (ran : operation.ComesMinting mints s left t) :
    operation.Comes .any s left t := ran.mono fun _ _ _ _ => And.left

namespace Surroundings

/-- Has the director that the document before had, if that had one. -/
def KeepsDirector (mints : Prop) (s t : Surroundings) : Prop :=
  s.Directed mints → t.doc.directorId = s.doc.directorId

theorem KeepsDirector.directed (kept : s.KeepsDirector mints t) (directed : s.Directed mints) :
    t.Directed mints := fun minting => kept directed ▸ directed minting

theorem KeepsDirector.step {c : Conduct} {r : Request} {reply : r.Reply}
    (answered : c.AnswersMinting mints s r reply t) (spared : Part.director.Spares s r) :
    s.KeepsDirector mints t := by
  intro directed
  by_cases asked : r = .load
  · subst asked
    cases reply with
    | ok doc =>
      obtain ⟨⟨id, kept, rfl, rfl⟩, -, unminted⟩ := answered
      by_cases minting : mints
      · exact kept (directed minting)
      · exact unminted minting
    | error failure => rw [answered.1.2.2]
  · cases answered.1.step with
    | loaded => exact absurd rfl asked
    | saved => exact spared
    | _ => rfl

end Surroundings

namespace Engine

variable {x : Engine α} {f : α → Engine β}

/-- All that comes of a run with a store of the two kinds. -/
def MeetsMinting (mints : Prop) (x : Engine α) (s : Surroundings)
    (post : Except Failure α → Surroundings → Prop) : Prop :=
  x.run.Meets (Conduct.any.AnswersMinting mints) (fun _ _ _ _ => True) post s

theorem Touches.keepsDirector {parts : List Part} (touches : x.Touches parts)
    (other : .director ∉ parts) (s : Surroundings) :
    x.MeetsMinting mints s fun _ t => s.KeepsDirector mints t := by
  have valid : x.run.Meets (Conduct.any.AnswersMinting mints) (Guard.sparing parts).safe _ s :=
    Program.Meets.restrict (touches s trivial) (fun _ _ _ _ => And.left) fun _ _ _ _ _ safe => safe
  refine ((valid.tracks (R := Surroundings.KeepsDirector mints) (fun _ _ => rfl) ?_ ?_).weaken
    fun _ _ h => h.2).restrict (fun _ _ _ _ h => h) fun _ _ _ _ _ _ => trivial
  · intro s t u first second directed
    exact (second (first.directed directed)).trans (first directed)
  · intro s r reply t answered safe
    apply Surroundings.KeepsDirector.step answered
    by_cases quiet : r.IsQuiet
    · exact quiet.spares _ s
    · exact safe quiet _ other

/-- When it returns, the document has its director. -/
def Directs (mints : Prop) (x : Engine α) : Prop :=
  ∀ s, x.MeetsMinting mints s (Ends (fun _ t => t.Directed mints) fun _ _ => True)

/-- What is done before does not matter. -/
theorem Directs.after (second : ∀ a, (f a).Directs mints) : (x >>= f).Directs mints := by
  intro s
  apply Program.Meets.bind (Program.Meets.anything x.run s)
  intro result t _
  cases result with
  | ok a => exact second a t
  | error e => trivial

/-- What is done later has to leave the director alone. -/
theorem Directs.before (parts : List Part) (first : x.Directs mints)
    (later : ∀ a, (f a).Touches parts) (other : .director ∉ parts) : (x >>= f).Directs mints := by
  intro s
  apply Program.Meets.bind (first s)
  intro result t directed
  cases result with
  | ok a =>
    refine ((later a).keepsDirector other t).weaken fun result u kept => ?_
    cases result with
    | ok b => exact kept.directed directed
    | error e => trivial
  | error e => trivial

theorem Directs.within {context : String} (directs : x.Directs mints) :
    (within context x).Directs mints := by
  intro s
  apply Program.Meets.bind (directs s)
  intro result t directed
  cases result with
  | ok a => exact directed
  | error e => trivial

end Engine

theorem Repository.look_directs : look.Directs mints := by
  apply Directs.within
  intro s reply t answered
  refine ⟨trivial, ?_⟩
  match reply with
  | .ok doc =>
    obtain ⟨⟨id, -, rfl, rfl⟩, minted, -⟩ := answered
    exact minted
  | .error failure => trivial

namespace Releases

theorem findUnused_directs : findUnused.Directs mints := by
  apply Directs.after
  intro all
  have finding : findCurrent.Directs mints :=
    .within (look_directs.before [] (fun _ => Keeps.pure _) List.not_mem_nil)
  exact finding.before [] (fun _ => Keeps.pure _) List.not_mem_nil

theorem deleteUnused_directs (stage : Stage) : (deleteUnused stage).Directs mints :=
  findUnused_directs.before [.releases] (deleteEach_touches stage) (by decide)

end Releases

/-- A deployment that returned has found its director, at the latest when it looked for releases
that nothing uses. -/
theorem Deployment.deploy_directs (settings : Settings) (manifest : Manifest)
    (extracted : ExtractedStemcell) (registry : RegistryConfig) (tunnel : SshTunnelConfig) :
    (deploy settings manifest extracted registry tunnel).Directs mints := by
  -- the ten steps before those records are swept
  iterate 10 refine Directs.after fun _ => ?_
  exact (Releases.deleteUnused_directs _).before [] (fun _ => Keeps.report _) List.not_mem_nil

end Reconciler
