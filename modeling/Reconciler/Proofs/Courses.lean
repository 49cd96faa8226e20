import Reconciler.Instance.Lifecycle
import Reconciler.Proofs.EngineRuns
import Reconciler.Proofs.Runs

/-!
Courses: what an operation asks of its surroundings, in which order, and how far it takes an
instance. A course is a list of moves. A run follows it from the front, and where a move fails the
run stops right behind it. Waiting for an agent and looking at its jobs are moves of their own, with
the attempts that fail and the pauses between them. Notices are left out.
-/
namespace Reconciler

def Request.isNotice : Request → Bool
  | .report _ => true
  | _ => false

/-- A store fails with errors of its own, not with those of a cloud. -/
def Request.Plausible : (r : Request) → r.Reply → Prop
  | .load, .error failure | .save _, .error failure => failure.cloudKind = none
  | _, _ => True

/-- Any answer may come, except that the state does not fail as a cloud does. What was asked is
kept, but for notices. -/
def Traced : Behaviour Effects (List Exchange) := fun s r reply t =>
  r.Plausible reply ∧ t = if r.isNotice then s else s ++ [⟨r, reply⟩]

/-- The reply tells that the request was not done. -/
def Request.Failed : (r : Request) → r.Reply → Prop
  | .cloud _, .error _ | .agent _, .error _ | .render _, .error _ | .load, .error _
  | .save _, .error _ => True
  | _, _ => False

/-- Pings up to a deadline, and whether the last one was answered. A further one is made after a
pause, unless it would not start before the deadline. -/
inductive Pings (delay deadline : Nat) : Nat → List Exchange → Bool → Prop
  | answered {further : Nat} (name : String) :
      Pings delay deadline further [⟨.agent .ping, .ok name⟩] true
  | last (failure : Failure) : Pings delay deadline 0 [⟨.agent .ping, .error failure⟩] false
  | late {further : Nat} (failure : Failure) {now : Nat} (tooLate : deadline ≤ now + delay) :
      Pings delay deadline (further + 1) [⟨.agent .ping, .error failure⟩, ⟨.now, now⟩] false
  | again {further : Nat} (failure : Failure) {now : Nat} (inTime : now + delay < deadline)
      {later : List Exchange} {answered : Bool}
      (others : Pings delay deadline further later answered) :
      Pings delay deadline (further + 1)
        (⟨.agent .ping, .error failure⟩ :: ⟨.now, now⟩ :: ⟨.sleep delay, ()⟩ :: later) answered

/-- What an agent replies whose jobs do not run. -/
def NotRunning : Except Failure AgentState → Prop
  | .ok state => state.isRunning = false
  | .error _ => True

/-- Looks at the jobs, and whether they ran at the last one. -/
inductive Looks (delay : Nat) : Nat → List Exchange → Bool → Prop
  | running {further : Nat} {state : AgentState} (runs : state.isRunning = true) :
      Looks delay further [⟨.agent .getState, .ok state⟩] true
  | last {reply : Except Failure AgentState} (stopped : NotRunning reply) :
      Looks delay 0 [⟨.agent .getState, reply⟩] false
  | again {further : Nat} {reply : Except Failure AgentState} (stopped : NotRunning reply)
      {later : List Exchange} {ran : Bool} (others : Looks delay further later ran) :
      Looks delay (further + 1) (⟨.agent .getState, reply⟩ :: ⟨.sleep delay, ()⟩ :: later) ran

inductive Move
  /-- One request, which goes well when its reply is good. -/
  | call (request : Request) (good : request.Reply → Prop)
  /-- Pings until the agent answers, or until it is given up. Neither stops a course. -/
  | wait (timeout delay : Nat) (answered : Bool)
  /-- Looks at the jobs until they run. -/
  | look (attempts delay : Nat)
  /-- The document is loaded and saved with a change. -/
  | record (edit : Document → Document)
  /-- The instance has come to a phase. -/
  | enter (phase : Phase)

namespace Move

def agent (call : AgentCall) (answer : call.Answer) : Move := .call (.agent call) (· = .ok answer)

def render (call : RenderCall) (spec : Json) : Move := .call (.render call) (· = .ok spec)

def pause (ms : Nat) : Move := .call (.sleep ms) fun _ => True

/-- The exchanges of a move that went well. -/
def Passes : Move → List Exchange → Prop
  | .call r good, calls => ∃ reply, good reply ∧ calls = [⟨r, reply⟩]
  | .wait timeout delay answered, calls => ∃ (now : Nat) (later : List Exchange),
    calls = ⟨.now, now⟩ :: later ∧
      Pings delay (now + timeout) (TimeoutRetry.furtherAttempts ⟨timeout, delay⟩) later answered
  | .look attempts delay, calls => Looks delay (attempts - 1) calls true
  | .record edit, calls => ∃ doc, calls = [⟨.load, .ok doc⟩, ⟨.save (edit doc), .ok ()⟩]
  | .enter _, _ => False

/-- The exchanges of a move that did not, and stops its course. -/
def Fails : Move → List Exchange → Prop
  | .call r good, calls => ∃ reply, r.Failed reply ∧ ¬good reply ∧ calls = [⟨r, reply⟩]
  | .look attempts delay, calls => Looks delay (attempts - 1) calls false
  | .record edit, calls => ∃ failure, calls = [⟨.load, .error failure⟩] ∨
    ∃ doc, calls = [⟨.load, .ok doc⟩, ⟨.save (edit doc), .error failure⟩]
  | .wait .., _ | .enter _, _ => False

end Move

/-- From one phase an instance follows moves with these exchanges, to the end of the moves or up to
one that fails, and comes to another phase. -/
inductive Course : List Move → Phase → List Exchange → Bool → Phase → Prop
  | done (phase : Phase) : Course [] phase [] true phase
  | enter {phase before after : Phase} {rest : List Move} {calls : List Exchange} {ok : Bool}
      (later : Course rest phase calls ok after) :
      Course (.enter phase :: rest) before calls ok after
  | passes {move : Move} {rest : List Move} {before after : Phase} {first calls : List Exchange}
      {ok : Bool} (passed : move.Passes first) (later : Course rest before calls ok after) :
      Course (move :: rest) before (first ++ calls) ok after
  | fails {move : Move} {rest : List Move} {phase : Phase} {calls : List Exchange}
      (failed : move.Fails calls) : Course (move :: rest) phase calls false phase

namespace Course

variable {moves others : List Move} {before between after : Phase} {calls later : List Exchange}
  {ok : Bool}

theorem append (first : Course moves before calls true between)
    (second : Course others between later ok after) :
    Course (moves ++ others) before (calls ++ later) ok after := by
  generalize went : true = whole at first
  induction first with
  | done => exact second
  | enter _ ih => exact .enter (ih second went)
  | passes passed _ ih =>
    rw [List.append_assoc]
    exact .passes passed (ih second went)
  | fails => cases went

/-- What stops a course stops a longer one. -/
theorem stops (first : Course moves before calls false after) :
    Course (moves ++ others) before calls false after := by
  generalize stopped : false = whole at first
  induction first with
  | done => cases stopped
  | enter _ ih => exact .enter (ih stopped)
  | passes passed _ ih => exact .passes passed (ih stopped)
  | fails failed => exact .fails failed

theorem passed {move : Move} (passed : move.Passes calls) (phase : Phase) :
    Course [move] phase calls true phase := by
  have whole := Course.passes passed (.done phase)
  rwa [List.append_nil] at whole

variable {r : Request} {good : r.Reply → Prop} {reply : r.Reply}

theorem called (went : good reply) (phase : Phase) :
    Course [.call r good] phase [⟨r, reply⟩] true phase := by
  have passes : (Move.call r good).Passes [⟨r, reply⟩] := ⟨reply, went, rfl⟩
  exact passed passes phase

theorem refused (failed : r.Failed reply) (bad : ¬good reply) (phase : Phase) :
    Course [.call r good] phase [⟨r, reply⟩] false phase := by
  have fails : (Move.call r good).Fails [⟨r, reply⟩] := ⟨reply, failed, bad, rfl⟩
  exact .fails fails

end Course

/-- In every run the program asks what it does, and ends with it as it should. -/
def Leaves {α : Type} (p : Program Effects α) (post : α → List Exchange → Prop) : Prop :=
  ∀ s, p.Meets Traced (fun _ _ _ _ => True) (fun a t => ∃ calls, t = s ++ calls ∧ post a calls) s

section Leaves

variable {α β : Type} {p : Program Effects α} {post : α → List Exchange → Prop}

theorem Leaves.done {a : α} (nothing : post a []) : Leaves (.done a) post :=
  Program.Logs.done nothing

theorem Leaves.weaken {post' : α → List Exchange → Prop} (leaves : Leaves p post)
    (implies : ∀ a calls, post a calls → post' a calls) : Leaves p post' :=
  Program.Logs.weaken leaves implies

theorem Leaves.bind {f : α → Program Effects β} {post' : β → List Exchange → Prop}
    (first : Leaves p post)
    (second : ∀ a calls, post a calls → Leaves (f a) fun b later => post' b (calls ++ later)) :
    Leaves (p >>= f) post' := Program.Logs.bind first second

theorem Leaves.ask {r : Request} {next : r.Reply → Program Effects α} (told : r.isNotice = false)
    (later : ∀ reply, r.Plausible reply →
      Leaves (next reply) fun a calls => post a (⟨r, reply⟩ :: calls)) :
    Leaves (.ask r next) post := by
  intro s reply t answered
  rw [Traced, told] at answered
  obtain ⟨expected, rfl⟩ := answered
  refine ⟨trivial, (later reply expected _).weaken ?_⟩
  rintro a _ ⟨calls, rfl, reached⟩
  exact ⟨⟨r, reply⟩ :: calls, by simp, reached⟩

theorem Leaves.report {notice : Notice} {next : Unit → Program Effects α}
    (later : Leaves (next ()) post) : Leaves (.ask (.report notice) next) post := by
  intro s reply t answered
  obtain ⟨-, rfl⟩ := answered
  exact ⟨trivial, later _⟩

/-- What a program returns does not depend on who watches it. -/
theorem Leaves.returns {σ : Type} {answers : Behaviour Effects σ} {Q : α → Prop}
    (leaves : Leaves p post) (implies : ∀ a calls, post a calls → Q a)
    (may : ∀ s r reply t, answers s r reply t → r.Plausible reply) (s : σ) :
    p.Meets answers (fun _ _ _ _ => True) (fun a _ => Q a) s := by
  have watched : p.Meets Traced (fun _ _ _ _ => True) (fun a _ => Q a) [] := by
    refine (leaves []).weaken ?_
    rintro a _ ⟨calls, -, reached⟩
    exact implies a calls reached
  clear leaves
  generalize ([] : List Exchange) = calls at watched
  induction p generalizing calls s with
  | done => exact watched
  | ask r next ih =>
    intro reply t answered
    obtain ⟨-, later⟩ := watched reply _ ⟨may s r reply t answered, rfl⟩
    exact ⟨trivial, ih reply _ _ later⟩

end Leaves

namespace Engine

variable {α β : Type}

/-- Every run follows the moves, wherever the instance is. -/
def Takes (x : Engine α) (moves : List Move) : Prop :=
  Leaves x.run fun result calls => ∀ phase, Course moves phase calls result.isOk phase

/-- Every run follows the moves that belong to the value it returns. A run that fails could have
returned any. -/
def Learns (x : Engine α) (moves : α → List Move) : Prop :=
  Leaves x.run fun result calls => match result with
    | .ok a => ∀ phase, Course (moves a) phase calls true phase
    | .error _ => ∀ a phase, Course (moves a) phase calls false phase

variable {x : Engine α} {moves others : List Move}

theorem Takes.pure (a : α) : Takes (Pure.pure a : Engine α) [] :=
  Leaves.done fun phase => .done phase

theorem Takes.bind {f : α → Engine β} (first : Takes x moves) (second : ∀ a, Takes (f a) others) :
    Takes (x >>= f) (moves ++ others) := by
  refine Leaves.bind first fun result calls followed => ?_
  cases result with
  | ok a =>
    refine (second a).weaken fun result later followed' phase => ?_
    exact (followed phase).append (followed' phase)
  | error e =>
    refine Leaves.done fun phase => ?_
    rw [List.append_nil]
    exact (followed phase).stops

/-- A context and a step leave what was asked, and whether it went well. -/
theorem leaves_within {context : String} (post : Bool → List Exchange → Prop)
    (leaves : Leaves x.run fun result => post result.isOk) :
    Leaves (Reconciler.within context x).run fun result => post result.isOk := by
  refine Leaves.bind leaves fun result calls reached => Leaves.done ?_
  rw [List.append_nil]
  cases result with
  | ok => exact reached
  | error => exact reached

/-- A step returns what its body does. -/
theorem leaves_told {stage : Stage} {name : String} {outcome : α → Outcome}
    {post : Except Failure α → List Exchange → Prop} (leaves : Leaves x.run post) :
    Leaves (stage.step name outcome x).run post := by
  apply Leaves.report
  change Leaves (x.run >>= _) _
  refine Leaves.bind leaves fun result calls reached => Leaves.report (Leaves.done ?_)
  rwa [List.append_nil]

theorem leaves_step {stage : Stage} {name : String} {outcome : α → Outcome}
    (post : Bool → List Exchange → Prop) (leaves : Leaves x.run fun result => post result.isOk) :
    Leaves (stage.step name outcome x).run fun result => post result.isOk := leaves_told leaves

theorem Takes.within {context : String} (takes : Takes x moves) :
    Takes (Reconciler.within context x) moves :=
  leaves_within (fun ok calls => ∀ phase, Course moves phase calls ok phase) takes

theorem Takes.step {stage : Stage} {name : String} {outcome : α → Outcome}
    (takes : Takes x moves) : Takes (stage.step name outcome x) moves :=
  leaves_step (fun ok calls => ∀ phase, Course moves phase calls ok phase) takes

theorem Takes.runStep {stage : Stage} {name : String} (takes : Takes x moves) :
    Takes (Engine.runStep stage name x) moves := Takes.step takes

theorem Takes.forEach {items : List α} {action : α → Engine Unit} {moves : α → Move}
    (each : ∀ item, Takes (action item) [moves item]) :
    Takes (forEach items action) (items.map moves) := by
  induction items with
  | nil => exact Takes.pure ()
  | cons item rest ih => exact (each item).bind fun () => ih

theorem Learns.within {context : String} {moves : α → List Move} (learns : Learns x moves) :
    Learns (Reconciler.within context x) moves := by
  refine Leaves.bind learns fun result calls followed => Leaves.done ?_
  rw [List.append_nil]
  cases result with
  | ok a => exact followed
  | error e => exact followed

theorem learns_agent (call : AgentCall) :
    Learns (Engine.agent call) fun answer => [.agent call answer] := by
  refine Leaves.ask rfl fun (reply : Except Failure call.Answer) _ => Leaves.done ?_
  cases reply with
  | ok answer => exact Course.called rfl
  | error e => exact fun answer => Course.refused trivial nofun

theorem learns_cloud (call : CloudCall) :
    Learns (Engine.cloud call) fun answer => [.call (.cloud call) (· = .ok answer)] := by
  refine Leaves.ask rfl fun (reply : Except CloudError call.Answer) _ => Leaves.done ?_
  cases reply with
  | ok answer => exact Course.called rfl
  | error e => exact fun answer => Course.refused trivial nofun

theorem learns_render (call : RenderCall) :
    Learns (Engine.render call) fun spec => [.render call spec] := by
  refine Leaves.ask rfl fun (reply : Except Failure Json) _ => Leaves.done ?_
  cases reply with
  | ok answer => exact Course.called rfl
  | error e => exact fun answer => Course.refused trivial nofun

theorem takes_pause (ms : Nat) : Takes (Engine.sleep ms) [.pause ms] :=
  Leaves.ask rfl fun _ _ => Leaves.done (Course.called trivial)

theorem Learns.takes {x : Engine Unit} {moves : Unit → List Move} (learns : Learns x moves) :
    Takes x (moves ()) := by
  refine Leaves.weaken learns fun result calls followed => ?_
  cases result with
  | ok => exact followed
  | error => exact followed ()

/-- The pings of a wait, up to its deadline. -/
theorem leaves_pings (delay deadline further : Nat) :
    Leaves (TimeoutRetry.attempts delay deadline (Engine.agent .ping).run (fun _ => true) further)
      fun result calls => Pings delay deadline further calls result.isOk := by
  induction further with
  | zero =>
    refine Leaves.ask rfl fun (reply : Except Failure String) _ => Leaves.done ?_
    cases reply with
    | ok name => exact .answered name
    | error failure => exact .last failure
  | succ further ih =>
    refine Leaves.ask rfl fun (reply : Except Failure String) _ => ?_
    cases reply with
    | ok name => exact Leaves.done (.answered name)
    | error failure =>
      refine Leaves.ask rfl fun (now : Nat) _ => ?_
      change Leaves (if now + delay < deadline then _ else _) _
      split
      case isTrue inTime =>
        refine Leaves.ask rfl fun _ _ => ih.weaken fun result calls pinged => ?_
        exact .again failure inTime pinged
      case isFalse tooLate => exact Leaves.done (.late failure (by omega))

theorem leaves_awaitReady (timeout delay : Nat) :
    Leaves (Agent.awaitReady timeout delay).run
      fun result calls => (Move.wait timeout delay result.isOk).Passes calls := by
  refine Leaves.ask rfl fun (now : Nat) _ => ?_
  refine Leaves.bind (leaves_pings delay (now + timeout) _) fun result calls pinged => ?_
  rw [← List.append_nil calls] at pinged
  cases result with
  | ok name => exact Leaves.done ⟨now, _, rfl, pinged⟩
  | error failure => exact Leaves.done ⟨now, _, rfl, pinged⟩

/-- One look at the jobs. -/
theorem leaves_checkRunning : Leaves Agent.checkRunning.run fun result calls =>
    ∃ reply : Except Failure AgentState, calls = [⟨.agent .getState, reply⟩] ∧ match result with
      | .ok () => ∃ state, reply = .ok state ∧ state.isRunning = true
      | .error _ => NotRunning reply := by
  refine Leaves.ask rfl fun (reply : Except Failure AgentState) _ => ?_
  cases reply with
  | error failure => exact Leaves.done ⟨_, rfl, trivial⟩
  | ok state =>
    change Leaves (if state.isRunning then _ else _ : Engine Unit).run _
    split
    case isTrue runs => exact Leaves.done ⟨_, rfl, state, rfl, runs⟩
    case isFalse stopped => exact Leaves.done ⟨_, rfl, by simpa [NotRunning] using stopped⟩

theorem leaves_looks (delay further : Nat) :
    Leaves (AttemptRetry.attempts delay Agent.checkRunning.run further)
      fun result calls => Looks delay further calls result.isOk := by
  induction further with
  | zero =>
    refine leaves_checkRunning.weaken ?_
    rintro (failure | ⟨⟩) _ ⟨reply, rfl, found⟩
    · exact .last found
    · obtain ⟨state, rfl, runs⟩ := found
      exact .running runs
  | succ further ih =>
    refine Leaves.bind leaves_checkRunning ?_
    rintro (failure | ⟨⟩) _ ⟨reply, rfl, found⟩
    · refine Leaves.ask rfl fun _ _ => ih.weaken fun result calls looked => ?_
      exact .again found looked
    · obtain ⟨state, rfl, runs⟩ := found
      exact Leaves.done (.running runs)

theorem takes_awaitRunning (attempts delay : Nat) :
    Takes (Agent.awaitRunning attempts delay) [.look attempts delay] := by
  refine (leaves_looks delay (attempts - 1)).weaken fun result calls looked phase => ?_
  cases result with
  | ok =>
    have passes : (Move.look attempts delay).Passes calls := looked
    exact .passed passes phase
  | error =>
    have fails : (Move.look attempts delay).Fails calls := looked
    exact .fails fails

/-- The document is loaded, changed and saved, and a failure is one of the store. -/
def Records (x : Engine Unit) (moves : List Move) : Prop :=
  Leaves x.run fun result calls => (∀ phase, Course moves phase calls result.isOk phase) ∧
    ∀ failure, result = .error failure → failure.cloudKind = none

theorem records_update (edit : Document → Document) :
    Records (Repository.update edit) [.record edit] := by
  refine Leaves.ask rfl fun (reply : Except Failure Document) expected => ?_
  cases reply with
  | error failure =>
    refine Leaves.done ⟨fun phase => ?_, ?_⟩
    · have fails : (Move.record edit).Fails [⟨.load, .error failure⟩] := ⟨failure, .inl rfl⟩
      exact .fails fails
    · rintro _ ⟨⟩
      exact expected
  | ok doc =>
    refine Leaves.ask rfl fun (reply : Except Failure Unit) expected => ?_
    cases reply with
    | error failure =>
      refine Leaves.done ⟨fun phase => ?_, ?_⟩
      · have fails : (Move.record edit).Fails
          [⟨.load, .ok doc⟩, ⟨.save (edit doc), .error failure⟩] := ⟨failure, .inr ⟨doc, rfl⟩⟩
        exact .fails fails
      · rintro _ ⟨⟩
        exact expected
    | ok =>
      refine Leaves.done ⟨fun phase => ?_, nofun⟩
      have passes : (Move.record edit).Passes [⟨.load, .ok doc⟩, ⟨.save (edit doc), .ok ()⟩] :=
        ⟨doc, rfl⟩
      exact .passed passes phase

theorem Records.within {context : String} {x : Engine Unit} {moves : List Move}
    (records : Records x moves) : Records (Reconciler.within context x) moves := by
  refine Leaves.bind records fun result calls followed => Leaves.done ?_
  rw [List.append_nil]
  cases result with
  | ok => exact ⟨followed.1, nofun⟩
  | error failure =>
    refine ⟨followed.1, ?_⟩
    rintro _ ⟨⟩
    exact followed.2 failure rfl

theorem Records.seq {x y : Engine Unit} {moves others : List Move} (first : Records x moves)
    (second : Records y others) : Records (do x; y) (moves ++ others) := by
  refine Leaves.bind first fun result calls followed => ?_
  cases result with
  | ok =>
    refine Leaves.weaken second fun result later followed' => ?_
    exact ⟨fun phase => (followed.1 phase).append (followed'.1 phase), followed'.2⟩
  | error failure =>
    refine Leaves.done ⟨fun phase => ?_, followed.2⟩
    rw [List.append_nil]
    exact (followed.1 phase).stops

end Engine

namespace Stateful

variable {ι κ α β : Type} {i : Instance}

/-- Every run from an instance follows the moves of one of its courses, and changes nothing of the
instance but its phase. -/
def Takes (x : Stateful Instance α) (i : Instance) (moves : ι → List Move) : Prop :=
  Leaves (x.runOn i) fun r calls => ∃ k, Course (moves k) i.phase calls r.1.isOk r.2.phase ∧
    r.2 = { i with phase := r.2.phase }

theorem leaves_bind {x : Stateful Instance α} {f : α → Stateful Instance β}
    {P : Except Failure α × Instance → List Exchange → Prop}
    {post : Except Failure β × Instance → List Exchange → Prop} (first : Leaves (x.runOn i) P)
    (second : ∀ a j calls, P (.ok a, j) calls →
      Leaves ((f a).runOn j) fun r later => post r (calls ++ later))
    (failed : ∀ e j calls, P (.error e, j) calls → post (.error e, j) calls) :
    Leaves ((x >>= f).runOn i) post := by
  refine Leaves.bind first ?_
  rintro ⟨e | a, j⟩ calls reached
  · refine Leaves.done ?_
    rw [List.append_nil]
    exact failed e j calls reached
  · exact second a j calls reached

theorem leaves_engine {x : Engine α} {P : Except Failure α → List Exchange → Prop}
    (leaves : Leaves x.run P) :
    Leaves ((liftM x : Stateful Instance α).runOn i) fun r calls => P r.1 calls ∧ r.2 = i := by
  refine Leaves.bind leaves fun result calls reached => Leaves.done ?_
  rw [List.append_nil]
  exact ⟨reached, rfl⟩

/-- A program cannot fail. -/
theorem leaves_program {p : Program Effects α} {P : α → List Exchange → Prop}
    (leaves : Leaves p P) : Leaves ((liftM p : Stateful Instance α).runOn i) fun r calls =>
      ∃ a, r = (.ok a, i) ∧ P a calls := by
  have lifted : Leaves (ExceptT.lift p : Engine α).run
      fun r calls => ∃ a, r = .ok a ∧ P a calls := by
    refine Leaves.bind leaves fun a calls reached => Leaves.done ⟨a, rfl, ?_⟩
    rwa [List.append_nil]
  refine (leaves_engine lifted).weaken ?_
  rintro ⟨_, _⟩ calls ⟨⟨a, rfl, reached⟩, rfl⟩
  exact ⟨a, rfl, reached⟩

theorem leaves_enter (phase : Phase) : Leaves ((Instance.enter phase).runOn i) fun r calls =>
    r = (.ok (), { i with phase := phase }) ∧ calls = [] := Leaves.done ⟨rfl, rfl⟩

theorem Takes.get {f : Instance → Stateful Instance α} {moves : ι → List Move}
    (later : Takes (f i) i moves) : Takes (get >>= f) i moves := later

theorem Takes.ofEngine {x : Engine α} {moves : ι → List Move}
    (takes : Leaves x.run fun r calls => ∃ k, ∀ phase, Course (moves k) phase calls r.isOk phase) :
    Takes (liftM x) i moves := by
  refine (leaves_engine takes).weaken ?_
  rintro ⟨r, j⟩ calls ⟨⟨k, followed⟩, rfl⟩
  exact ⟨k, followed _, rfl⟩

theorem Takes.engine [Nonempty ι] {x : Engine α} {f : α → Stateful Instance β} {moves : List Move}
    {others : ι → List Move} (first : Engine.Takes x moves)
    (later : ∀ a, Takes (f a) i others) :
    Takes ((liftM x : Stateful Instance α) >>= f) i fun k => moves ++ others k := by
  refine leaves_bind (leaves_engine first) ?_ ?_
  · rintro a j calls ⟨followed, rfl⟩
    refine (later a).weaken ?_
    rintro r later ⟨k, followed', same⟩
    exact ⟨k, (followed _).append followed', same⟩
  · rintro e j calls ⟨followed, rfl⟩
    obtain ⟨k⟩ := ‹Nonempty ι›
    exact ⟨k, (followed _).stops, rfl⟩

theorem Takes.unless [Nonempty ι] {x : Engine Unit} {f : Unit → Stateful Instance α}
    {moves : List Move} {others : ι → List Move} (skip : Bool) (first : Engine.Takes x moves)
    (later : Takes (f ()) i others) :
    Takes (if skip then f () else (liftM x : Stateful Instance Unit) >>= f) i
      fun k => (if skip then [] else moves) ++ others k := by
  cases skip with
  | true => exact later
  | false => exact Takes.engine first fun () => later

theorem Takes.learns [Nonempty ι] [Nonempty α] {x : Engine α} {f : α → Stateful Instance β}
    {moves : α → List Move} (others : α → ι → List Move) (first : Engine.Learns x moves)
    (later : ∀ a, Takes (f a) i (others a)) :
    Takes ((liftM x : Stateful Instance α) >>= f) i
      fun k : α × ι => moves k.1 ++ others k.1 k.2 := by
  refine leaves_bind (leaves_engine first) ?_ ?_
  · rintro a j calls ⟨followed, rfl⟩
    refine (later a).weaken ?_
    rintro r later ⟨k, followed', same⟩
    exact ⟨(a, k), (followed _).append followed', same⟩
  · rintro e j calls ⟨followed, rfl⟩
    obtain ⟨k⟩ := ‹Nonempty ι›
    obtain ⟨a⟩ := ‹Nonempty α›
    exact ⟨(a, k), (followed a _).stops, rfl⟩

theorem Takes.enter {phase : Phase} {f : Unit → Stateful Instance α} {moves : ι → List Move}
    (later : Takes (f ()) { i with phase := phase } moves) :
    Takes (Instance.enter phase >>= f) i fun k => .enter phase :: moves k := by
  refine leaves_bind (leaves_enter phase) ?_ ?_
  · rintro _ _ _ ⟨⟨⟩, rfl⟩
    refine Leaves.weaken later ?_
    rintro r calls ⟨k, followed, same⟩
    exact ⟨k, .enter followed, same⟩
  · rintro _ _ _ ⟨⟨⟩, -⟩

theorem Takes.entered (phase : Phase) : Takes (Instance.enter phase) i
    fun _ : Unit => [.enter phase] := Leaves.done ⟨(), .enter (.done phase), rfl⟩

theorem Takes.seq [Nonempty κ] {x : Stateful Instance α} {f : α → Stateful Instance β}
    {moves : ι → List Move} {others : κ → List Move} (first : Takes x i moves)
    (later : ∀ a phase, Takes (f a) { i with phase := phase } others) :
    Takes (x >>= f) i fun k : ι × κ => moves k.1 ++ others k.2 := by
  refine leaves_bind first ?_ ?_
  · rintro a j calls ⟨k, followed, same⟩
    have next := later a j.phase
    rw [← same] at next
    refine next.weaken ?_
    rintro r later ⟨k', followed', same'⟩
    exact ⟨(k, k'), followed.append followed', same'.trans (by rw [same])⟩
  · rintro e j calls ⟨k, followed, same⟩
    obtain ⟨k'⟩ := ‹Nonempty κ›
    exact ⟨(k, k'), followed.stops, same⟩

theorem Takes.reindex {x : Stateful Instance α} {moves : ι → List Move} {others : κ → List Move}
    (takes : Takes x i moves) (same : ∀ k, ∃ k', others k' = moves k) : Takes x i others := by
  refine Leaves.weaken takes ?_
  rintro r calls ⟨k, followed, kept⟩
  obtain ⟨k', same⟩ := same k
  exact ⟨k', same ▸ followed, kept⟩

end Stateful

end Reconciler
