import Reconciler.Proofs.Plans
import Reconciler.Proofs.Progress
import Reconciler.Proofs.Directors

/-!
Runs that are watched: what becomes of the surroundings, and which steps listeners hear of on the
way. Nobody hears of what happens within a step, so that a step is known from its body.
-/
namespace Reconciler

open Engine Repository

variable {α : Type} {c : Conduct} {mints : Prop}

namespace Document

def withDirector (id : String) (doc : Document) : Document := { doc with directorId := id }

/-- Edits that have nothing to do with the director. -/
def Undirected (edit : Document → Document) : Prop :=
  ∀ doc id, edit (withDirector id doc) = (edit doc).withDirector id

theorem Undirected.directorId {edit : Document → Document} (undirected : Undirected edit)
    (doc : Document) : (edit doc).directorId = doc.directorId := by
  have same := congrArg Document.directorId (undirected doc doc.directorId)
  exact same

end Document

namespace Surroundings

/-- The document is what the edit makes of the one before, which may have been given its director
when it was looked at. -/
def Becomes (edit : Document → Document) (s t : Surroundings) : Prop :=
  t.doc = edit (s.doc.withDirector t.doc.directorId)

/-- Nothing of the document has changed but that it may have its director now. -/
abbrev Stays (s t : Surroundings) : Prop := s.Becomes id t

theorem Stays.ofFrame {s t : Surroundings} (frame : Frame [] s t) : s.Stays t := frame.doc

namespace Becomes

variable {s t u : Surroundings} {edit later : Document → Document}

theorem congr (becomes : t.Becomes edit u) (same : t.doc = s.doc) : s.Becomes edit u := by
  unfold Becomes at becomes ⊢
  rwa [same] at becomes

theorem trans (first : s.Becomes edit t) (second : t.Becomes later u)
    (undirected : Document.Undirected edit) : s.Becomes (fun doc => later (edit doc)) u := by
  have combined : u.doc = later ((edit (s.doc.withDirector t.doc.directorId)).withDirector
      u.doc.directorId) := first ▸ second
  rwa [← undirected] at combined

theorem saved (frame : Frame [] s t) (undirected : Document.Undirected edit) :
    s.Becomes edit (t.saved (edit t.doc)) := by
  have seen : t.doc = s.doc.withDirector t.doc.directorId := frame.doc
  change edit t.doc = edit (s.doc.withDirector (edit t.doc).directorId)
  rw [undirected.directorId, ← seen]

end Becomes

theorem deeds_noted (s : Surroundings) (call : CloudCall) (reply : Except CloudError call.Answer) :
    (s.noted ⟨.cloud call, reply⟩).deeds = s.deeds ++ [⟨.cloud call, reply⟩] := by
  simp [deeds, noted, Request.isCall]

theorem deeds_served (s : Surroundings) (call : CloudCall) (answer : call.Answer) :
    (s.served call answer).deeds = s.deeds ++ [⟨.cloud call, .ok answer⟩] := by
  simp [deeds, served, Request.isCall]

theorem KeepsDirector.trans {s t u : Surroundings} (first : s.KeepsDirector mints t)
    (second : t.KeepsDirector mints u) : s.KeepsDirector mints u :=
  fun directed => (second (first.directed directed)).trans (first directed)

end Surroundings

namespace Repository

variable {g : Guard} {s : Surroundings}

/-- A change of the document is made, or the store has failed and it is not. -/
theorem update_becomes {edit : Document → Document} (undirected : Document.Undirected edit) :
    Meets c .none s (update edit) (fun _ t => s.Becomes edit t)
      fun e t => c.StoreFailure e ∧ s.Stays t :=
  update_meets (fun _ _ => trivial) (fun _ frame => .saved frame undirected)
    fun _ _ lost frame => ⟨lost, .ofFrame frame⟩

end Repository

/-- What is known of a run and what it touches, with a store of one of the two kinds. -/
theorem Engine.Meets.keepsDirector (mints : Prop) {x : Engine α} {s : Surroundings}
    {parts : List Part} {ok : α → Surroundings → Prop} {err : Failure → Surroundings → Prop}
    (valid : Meets c .none s x ok err) (touches : x.Touches parts) (other : .director ∉ parts) :
    x.run.Meets (c.AnswersMinting mints) (fun _ _ _ _ => True)
      (fun result t => Ends ok err result t ∧ s.KeepsDirector mints t) s := by
  have ended : x.run.Meets (c.AnswersMinting mints) (fun _ _ _ _ => True) (Ends ok err) s :=
    Program.Meets.restrict valid (fun _ _ _ _ => And.left) fun _ _ _ _ _ _ => trivial
  have kept : x.run.Meets (c.AnswersMinting mints) (fun _ _ _ _ => True)
      (fun _ t => s.KeepsDirector mints t) s :=
    (touches.keepsDirector other s).restrict
      (fun _ _ _ _ answered => ⟨Conduct.answers_any answered.1, answered.2⟩)
      fun _ _ _ _ _ _ => trivial
  exact (ended.and kept).restrict (fun _ _ _ _ h => h) fun _ _ _ _ _ _ => trivial

/-- Surroundings, and what was heard of the steps. -/
structure Watched where
  now : Surroundings
  heard : List StepEvent

/-- As surroundings answer while someone listens. -/
def Conduct.AnswersWatched (c : Conduct) (mints : Prop) : Behaviour Effects Watched :=
  fun s r reply t => c.AnswersMinting mints s.now r reply t.now ∧ Overheard s.heard r reply t.heard

variable {s : Watched}

namespace Conduct

/-!
Replies that all surroundings can give, where the store gives a director to every document.
-/

variable (c)

theorem minting_load {s : Surroundings} {id : String}
    (kept : s.doc.directorId ≠ "" → id = s.doc.directorId) (named : id ≠ "") :
    c.AnswersMinting True s .load (.ok (s.loaded id).doc) (s.loaded id) :=
  ⟨c.answers_load s id kept, fun _ => named, absurd trivial⟩

theorem minting_save (s : Surroundings) (doc : Document) :
    c.AnswersMinting mints s (.save doc) (.ok ()) (s.saved doc) := ⟨c.answers_save s doc, trivial⟩

theorem minting_freshId {s : Surroundings} {id : String} (named : id ≠ "") (new : id ∉ s.ids) :
    c.AnswersMinting mints s .freshId id (s.issued id) := ⟨c.answers_freshId s named new, trivial⟩

theorem minting_cloud {s : Surroundings} (call : CloudCall) (answer : call.Answer)
    (unused : s.Unused call answer) :
    c.AnswersMinting mints s (.cloud call) (.ok answer) (s.served call answer) :=
  ⟨c.answers_cloud s call answer unused, trivial⟩

theorem minting_refused {s : Surroundings} {call : CloudCall} (error : CloudError)
    (may : c.mayFail s.cloud (.cloud call)) (free : ¬c.honest) :
    c.AnswersMinting mints s (.cloud call) (.error error) (s.noted ⟨.cloud call, .error error⟩) :=
  ⟨⟨may, fun honest => absurd honest free, rfl⟩, trivial⟩

variable {c}

theorem AnswersMinting.watched {r : Request} {reply : r.Reply} {t : Surroundings}
    (answered : c.AnswersMinting mints s.now r reply t) (silent : r.IsSilent) :
    c.AnswersWatched mints s r reply ⟨t, s.heard⟩ := by
  refine ⟨answered, ?_⟩
  cases r with
  | report => cases silent
  | _ => rfl

variable (c) in
theorem watched_report (s : Watched) (event : StepEvent) :
    c.AnswersWatched mints s (.report (.step event)) () ⟨s.now, s.heard ++ [event]⟩ :=
  ⟨⟨c.answers_report s.now _, trivial⟩, rfl⟩

end Conduct

/-- What is known of a program holds while someone listens, who hears nothing. -/
theorem Program.Only.watched {p : Program Effects α} {post : α → Surroundings → Prop}
    (silent : p.Only Request.IsSilent)
    (valid : p.Meets (c.AnswersMinting mints) (fun _ _ _ _ => True) post s.now) :
    p.Meets (c.AnswersWatched mints) (fun _ _ _ _ => True)
      (fun a t => post a t.now ∧ t.heard = s.heard) s := by
  induction p generalizing s with
  | done a => exact ⟨valid, rfl⟩
  | ask r next ih =>
    intro reply t answered
    obtain ⟨answered, overheard⟩ := answered
    have unheard : t.heard = s.heard := by
      cases r with
      | report => cases silent.1
      | _ => exact overheard
    refine ⟨trivial, (ih reply (silent.2 reply) (valid reply t.now answered).2).weaken ?_⟩
    rintro a u ⟨reached, same⟩
    exact ⟨reached, same.trans unheard⟩

/-- What a step that ended so was to its listeners. -/
def Stage.told (stage : Stage) (name : String) (result : Except Failure Outcome) : Step :=
  ⟨stage.name, name, result.mapError Failure.text⟩

theorem Stage.events_told (stage : Stage) (name : String) (result : Except Failure Outcome) :
    (stage.told name result).events = [stage.opening name, stage.closing name result] := by
  match result with
  | .ok .finished | .ok (.skipped _) | .error _ => rfl

/-- A step does what its body does, and is heard from its start to its end. -/
theorem Stage.step_watched {stage : Stage} {name : String} {outcome : α → Outcome} {x : Engine α}
    {post : Except Failure α → Surroundings → Prop} (silent : x.Asks Request.IsSilent)
    (valid : x.run.Meets (c.AnswersMinting mints) (fun _ _ _ _ => True) post s.now) :
    (stage.step name outcome x).run.Meets (c.AnswersWatched mints) (fun _ _ _ _ => True)
      (fun result t => post result t.now ∧
        t.heard = s.heard ++ (stage.told name (result.map outcome)).events) s := by
  rintro _ ⟨now, _⟩ ⟨⟨opened, -⟩, heard⟩
  obtain rfl : now = s.now := opened
  obtain rfl : _ = s.heard ++ [stage.opening name] := heard
  refine ⟨trivial, ?_⟩
  change Program.Meets _ _ _ (x.run >>= _) _
  let opening : Watched := ⟨s.now, s.heard ++ [stage.opening name]⟩
  apply Program.Meets.bind (Program.Only.watched (s := opening) silent valid)
  rintro result t ⟨reached, same⟩ _ u ⟨⟨closed, -⟩, heard⟩
  refine ⟨trivial, ?_, ?_⟩
  · rw [show u.now = t.now from closed]
    exact reached
  · rw [show u.heard = t.heard ++ [_] from heard, same, stage.events_told, List.append_assoc]
    rfl

end Reconciler
