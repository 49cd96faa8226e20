import Reconciler.Progress.Recorder

/-!
Steps inside of steps, and what a recorder can tell of them. Work is done in steps whose bodies are
work again, so that doing it makes a forest of steps. A recorder hears of them one after the other,
as in a walk through the forest. Which step an event belongs to it has to find out from the names;
it always does as long as no step is inside of one that has its name.
-/
namespace Reconciler

/-- Work in steps. Each step is a call that gives back how it ended, and what is done next depends
on that: a failure may end the work around it or not. -/
inductive Work : Type → Type 1
  | done {α : Type} (result : Except Failure α) : Work α
  | perform {α : Type} (stage : Stage) (name : String) (body : Work Outcome)
      (next : Except Failure Outcome → Work α) : Work α
  | run {α β : Type} (stage : Stage) (name : String) (body : Work β)
      (next : Except Failure β → Work α) : Work α

/-- Steps one after the other, each with the steps inside of it and the way it ended. -/
inductive Forest
  | empty
  | step (stage name : String) (inside : Forest) (ending : Except Failure Outcome) (later : Forest)

namespace Forest

def stateOf : Except Failure Outcome → StepState
  | .ok .finished => .finished
  | .ok (.skipped _) => .skipped
  | .error _ => .failed

def messageOf : Except Failure Outcome → Option String
  | .ok .finished => none
  | .ok (.skipped reason) => some reason
  | .error failure => some failure.text

/-- A walk through the forest: into a step, through all that is inside of it, and out of it. -/
def events : Forest → List StepEvent
  | .empty => []
  | .step stage name inside ending later =>
    ⟨stage, name, .started, none⟩ :: inside.events ++
      ⟨stage, name, stateOf ending, messageOf ending⟩ :: later.events

/-- The steps in the order in which the walk comes to them, each with the state it ended in. -/
def steps : Forest → List (String × StepState)
  | .empty => []
  | .step _ name inside ending later => (name, stateOf ending) :: inside.steps ++ later.steps

/-- No step is inside of one that has its name. -/
def Separate : Forest → Prop
  | .empty => True
  | .step _ name inside _ later =>
    (∀ step ∈ inside.steps, step.1 ≠ name) ∧ inside.Separate ∧ later.Separate

end Forest

namespace Work

variable {α : Type}

/-- How the work ends, when every step ends as its body does. -/
def result {α : Type} : Work α → Except Failure α
  | .done result => result
  | .perform _ _ body next => (next body.result).result
  | .run _ _ body next => (next body.result).result

/-- The steps that are made. -/
def forest {α : Type} : Work α → Forest
  | .done _ => .empty
  | .perform stage name body next =>
    .step stage.name name body.forest body.result (next body.result).forest
  | .run stage name body next =>
    .step stage.name name body.forest (body.result.map fun _ => .finished)
      (next body.result).forest

/-- The calls that do the work, in front of a listener. -/
def program {α : Type} : Work α → ExceptT Failure Recorder.Listening α
  | .done result => ExceptT.mk (pure result)
  | .perform stage name body next => ExceptT.mk do
    (next (← (stage.perform name body.program).run)).program.run
  | .run stage name body next => ExceptT.mk do
    (next (← (stage.run name body.program).run)).program.run

end Work

section Listening

variable {α : Type}

theorem Stage.closing_eq (stage : Stage) (name : String) (ending : Except Failure Outcome) :
    stage.closing name ending =
      ⟨stage.name, name, Forest.stateOf ending, Forest.messageOf ending⟩ := by
  rcases ending with failure | (_ | reason) <;> rfl

/-- A step is heard of before and after its body, whose result it has. -/
theorem Stage.step_listened (stage : Stage) (name : String) (outcome : α → Outcome)
    {body : ExceptT Failure Recorder.Listening α} {result : Except Failure α} {inside : Forest}
    (heard : ∀ notices, body.run.run notices = (result, notices ++ inside.events.map .step))
    (notices : List Notice) :
    (stage.step name outcome body).run.run notices = (result, notices ++
      (Forest.step stage.name name inside (result.map outcome) .empty).events.map .step) := by
  have opened := heard (notices ++ [.step (stage.opening name)])
  have ran : (stage.step name outcome body).run.run notices =
      let (result, notices) := body.run.run (notices ++ [.step (stage.opening name)])
      (result, notices ++ [.step (stage.closing name (result.map outcome))]) := rfl
  rw [ran, opened]
  simp [Forest.events, stage.closing_eq, Stage.opening]

/-- Doing the work makes its forest, and every step ends as its body does. -/
theorem Work.listened (work : Work α) (notices : List Notice) :
    work.program.run.run notices = (work.result, notices ++ work.forest.events.map .step) := by
  induction work generalizing notices with
  | done result =>
    rw [forest, Forest.events, List.map_nil, List.append_nil]
    rfl
  | perform stage name body next ihBody ihNext =>
    have step : (stage.perform name body.program).run.run notices = _ :=
      stage.step_listened name id ihBody notices
    have ran : (perform stage name body next).program.run.run notices =
        let (result, notices) := (stage.perform name body.program).run.run notices
        (next result).program.run.run notices := rfl
    have same : body.result.map id = body.result := by cases body.result <;> rfl
    rw [ran, step]
    simp [ihNext, result, forest, Forest.events, same]
  | run stage name body next ihBody ihNext =>
    have step : (stage.run name body.program).run.run notices = _ :=
      stage.step_listened name (fun _ => .finished) ihBody notices
    have ran : (run stage name body next).program.run.run notices =
        let (result, notices) := (stage.run name body.program).run.run notices
        (next result).program.run.run notices := rfl
    rw [ran, step]
    simp [ihNext, result, forest, Forest.events]

end Listening

namespace Recorder

theorem foldl_record_events (events : List StepEvent) (recorder : Recorder) :
    (events.map Notice.step).foldl record recorder =
      { recorder with events := recorder.events ++ events } := by
  induction events generalizing recorder with
  | nil => simp
  | cons first rest ih => simp [record, ih]

/-- An event that does not start a step belongs to the last one of its name. -/
theorem advance_last (step : String) (state : StepState) {later : List (String × List StepState)}
    (other : ∀ entry ∈ later, entry.1 ≠ step) (states : List StepState)
    (steps : List (String × List StepState)) :
    advance step state (steps ++ (step, states) :: later) =
      steps ++ (step, states ++ [state]) :: later := by
  induction steps with
  | nil =>
    have last : later.all (·.1 ≠ step) = true := by simpa using other
    rw [List.nil_append, advance, if_pos ⟨rfl, last⟩]
    rfl
  | cons first rest ih => simp [advance, ih]

/-- What is known of a step that was started and has ended. -/
def told (step : String × StepState) : String × List StepState := (step.1, [.started, step.2])

/-- All that was started inside of a step comes after it and has another name, so that the end of
the step finds it. -/
theorem foldl_track_events {forest : Forest} (separate : forest.Separate)
    (steps : List (String × List StepState)) :
    forest.events.foldl track steps = steps ++ forest.steps.map told := by
  induction forest generalizing steps with
  | empty => simp [Forest.events, Forest.steps]
  | step stage name inside ending later ihInside ihLater =>
    obtain ⟨other, inner, outer⟩ := separate
    have others : ∀ entry ∈ inside.steps.map told, entry.1 ≠ name := by
      rintro _ among
      obtain ⟨step, member, rfl⟩ := List.mem_map.mp among
      exact other step member
    have started : track steps ⟨stage, name, .started, none⟩ = steps ++ [(name, [.started])] := rfl
    have ended (steps : List (String × List StepState)) :
        track steps ⟨stage, name, Forest.stateOf ending, Forest.messageOf ending⟩ =
          advance name (Forest.stateOf ending) steps := by
      rcases ending with failure | (_ | reason) <;> rfl
    rw [Forest.events, List.foldl_append, List.foldl_cons, List.foldl_cons, started,
      ihInside inner, ended, List.append_assoc, List.singleton_append, advance_last _ _ others,
      ihLater outer]
    simp [Forest.steps, told]

end Recorder

/-- A recorder that has listened to some work knows its steps as they were made: what it was told is
a walk through the forest of them, and it has found out for each step, in the order in which they
were started, that it was started and how it ended. The work itself goes as if no one listened. -/
theorem Work.recorder_knows_forest {α : Type} (work : Work α) (separate : work.forest.Separate) :
    let ran := work.program.run.run []
    let recorder := Recorder.ofNotices ran.2
    ran.1 = work.result ∧ recorder.events = work.forest.events ∧
      recorder.stepNames = work.forest.steps.map (fun (name, _) => name) ∧
      recorder.stepStates =
        work.forest.steps.map (fun (name, state) => (name, [.started, state])) ∧
      recorder.outcomes = work.forest.steps := by
  intro ran recorder
  have heard : ran = (work.result, [] ++ work.forest.events.map .step) := work.listened []
  have kept : recorder = ⟨[], work.forest.events⟩ := by
    rw [show recorder = Recorder.ofNotices ran.2 from rfl, heard]
    exact Recorder.foldl_record_events _ _
  have states : recorder.stepStates = work.forest.steps.map Recorder.told := by
    rw [kept]
    exact Recorder.foldl_track_events separate []
  refine ⟨by rw [heard], by rw [kept], ?_, states, ?_⟩
  · simp [Recorder.stepNames, states, Recorder.told]
  · rw [Recorder.outcomes, states, List.filterMap_map]
    exact List.filterMap_some

/-- Steps of one name after each other and steps inside of others, with a failure that is let pass
and one that is handed on. -/
def Work.nested : Work Unit :=
  .run ⟨"deploying"⟩ "update"
    (.perform ⟨"disks"⟩ "attach" (.done (.ok (.skipped "attached"))) fun _ =>
      .perform ⟨"disks"⟩ "attach" (.done (.error (.agent "down"))) fun _ => .done (.ok ()))
    fun _ => .run ⟨"deploying"⟩ "update"
      (.run ⟨"deploying"⟩ "start" (.done (.error (.agent "down"))) .done) .done

theorem Work.recorder_knows_nested :
    Work.nested.forest.Separate ∧
      (Recorder.ofNotices (Work.nested.program.run.run []).2).stepStates =
        [("update", [.started, .finished]), ("attach", [.started, .skipped]),
          ("attach", [.started, .failed]), ("update", [.started, .failed]),
          ("start", [.started, .failed])] := by
  have separate : nested.forest.Separate := by
    simp [nested, forest, Forest.Separate, Forest.steps]
  exact ⟨separate, (recorder_knows_forest nested separate).2.2.2.1⟩

end Reconciler
