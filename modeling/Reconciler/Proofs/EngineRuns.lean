import Reconciler.Engine
import Reconciler.Proofs.Surroundings
import Reconciler.Resource.Deletion

/-!
Rules for runs of engine programs. `Engine.Meets` speaks of every run from a state, with one
condition for the runs that return a value and one for those that fail. A `Guard` says which deeds
may be done at the moment they are asked for. Looks at the document, progress notices and the clock
are no deeds and need no guard.
-/
namespace Reconciler

/-- Requests that change no record, no resource and no disk, whatever the reply. -/
def Request.IsQuiet : Request → Prop
  | .cloud (.hasVm _) | .cloud (.setVmMetadata ..) => True
  | .cloud _ | .agent .migrateDisk | .save _ => False
  | _ => True

/-- Which deeds may be done, and when. -/
abbrev Guard := Surroundings → Request → Prop

namespace Guard

def none : Guard := fun _ _ => True

def safe (g : Guard) : Behaviour Effects Surroundings := fun s r _ _ => ¬r.IsQuiet → g s r

end Guard

namespace Conduct

/-- Requests to the store may fail. -/
def StoreFails (c : Conduct) : Prop :=
  ∃ held r, (r = .load ∨ ∃ doc, r = .save doc) ∧ c.mayFail held r

/-- The failure of a store, if that may fail. -/
def StoreFailure (c : Conduct) (failure : Failure) : Prop :=
  (∃ fault, failure.root = .storage fault) ∧ c.StoreFails

theorem StoreFailure.cloudKind {c : Conduct} {failure : Failure} (lost : c.StoreFailure failure) :
    failure.cloudKind = none := by
  obtain ⟨⟨fault, stored⟩, -⟩ := lost
  rw [Failure.cloudKind, stored]

/-- Something else may fail although no resource is missing, or jobs may not run. -/
def Troubled (c : Conduct) : Prop :=
  ¬c.running ∨ ∃ held r, ¬(r = .load ∨ ∃ doc, r = .save doc) ∧ c.mayFail held r ∧
    ∀ call, r = .cloud call → ¬held.Lacks call

theorem not_storeFails_reliableStore : ¬reliableStore.StoreFails := by
  rintro ⟨held, r, rfl | ⟨doc, rfl⟩, may⟩
  · exact may
  · exact may

theorem not_storeFails_smooth : ¬smooth.StoreFails := by
  rintro ⟨held, r, rfl | ⟨doc, rfl⟩, may⟩
  · exact may
  · exact may

theorem not_troubled_smooth : ¬smooth.Troubled := by
  rintro (stopped | ⟨held, r, -, may, present⟩)
  · exact stopped trivial
  · cases r with
    | cloud call => exact present call rfl may
    | _ => exact may

/-- Surroundings in which more may go wrong can do the same. -/
theorem Answers.mono {c c' : Conduct} {s t : Surroundings} {r : Request} {reply : r.Reply}
    (answered : c.Answers s r reply t) (fails : ∀ held r, c.mayFail held r → c'.mayFail held r)
    (honest : c'.honest → c.honest) (running : c'.running → c.running) :
    c'.Answers s r reply t := by
  unfold Conduct.Answers at answered ⊢
  split at answered
  · exact answered
  · exact ⟨fails _ _ answered.1, fun truly => answered.2.1 (honest truly), answered.2.2⟩
  · exact ⟨fun runs => answered.1 (running runs), answered.2⟩
  · exact ⟨fails _ _ answered.1, answered.2⟩
  · exact answered
  · exact ⟨fails _ _ answered.1, answered.2⟩
  · exact answered
  · exact ⟨fails _ _ answered.1, answered.2⟩
  all_goals first | exact answered | exact ⟨fails _ _ answered.1, answered.2⟩

/-- Whatever surroundings do, those in which everything may fail can do. -/
theorem answers_any {c : Conduct} {s t : Surroundings} {r : Request} {reply : r.Reply}
    (answered : c.Answers s r reply t) : Conduct.any.Answers s r reply t :=
  answered.mono (fun _ _ _ => trivial) False.elim False.elim

end Conduct

namespace Engine

variable {α β : Type}

/-- What is wanted of a result and the state it comes with. -/
def Ends (ok : α → Surroundings → Prop) (err : Failure → Surroundings → Prop) :
    Except Failure α → Surroundings → Prop
  | .ok a, t => ok a t
  | .error failure, t => err failure t

/-- Every run from `s` keeps to the guard, and ends as `ok` says or fails as `err` says. -/
def Meets (c : Conduct) (g : Guard) (s : Surroundings) (x : Engine α)
    (ok : α → Surroundings → Prop) (err : Failure → Surroundings → Prop) : Prop :=
  x.run.Meets c.Answers g.safe (Ends ok err) s

variable {c : Conduct} {g : Guard} {s : Surroundings} {x : Engine α}
  {ok : α → Surroundings → Prop} {err : Failure → Surroundings → Prop}

theorem Meets.weaken {ok' : α → Surroundings → Prop} {err' : Failure → Surroundings → Prop}
    (valid : Meets c g s x ok err) (success : ∀ a t, ok a t → ok' a t)
    (failure : ∀ e t, err e t → err' e t) : Meets c g s x ok' err' := by
  apply Program.Meets.weaken valid
  intro result t h
  cases result with
  | ok a => exact success a t h
  | error e => exact failure e t h

theorem Meets.and {g' : Guard} {ok' : α → Surroundings → Prop}
    {err' : Failure → Surroundings → Prop} (first : Meets c g s x ok err)
    (second : Meets c g' s x ok' err') :
    Meets c g s x (fun a t => ok a t ∧ ok' a t) fun e t => err e t ∧ err' e t := by
  refine ((Program.Meets.and first second).weaken fun result t h => ?_).restrict
    (fun _ _ _ _ h => h) fun _ _ _ _ _ h => h.1
  cases result with
  | ok a => exact h
  | error e => exact h

/-- What is known of a run that has returned a value. -/
theorem Meets.returned {a : α} {t : Surroundings} (valid : Meets c g s x ok err)
    (ran : x.run.Reaches c.Answers s (.done (.ok a)) t) : ok a t := by
  have ended : Ends ok err (.ok a) t := Program.Meets.ends valid ran
  exact ended

/-- A weaker guard. -/
theorem Meets.permit {g' : Guard} (valid : Meets c g s x ok err)
    (weaker : ∀ s r, g s r → g' s r) : Meets c g' s x ok err :=
  Program.Meets.restrict valid (fun _ _ _ _ h => h)
    fun s r _ _ _ safe deed => weaker s r (safe deed)

theorem Meets.unguarded (valid : Meets c g s x ok err) : Meets c .none s x ok err :=
  valid.permit fun _ _ _ => trivial

/-- What holds when everything may fail holds in all surroundings. -/
theorem Meets.ofAny (valid : Meets .any g s x ok err) : Meets c g s x ok err :=
  Program.Meets.restrict valid (fun _ _ _ _ => Conduct.answers_any) fun _ _ _ _ _ safe => safe

theorem Meets.pure {a : α} (h : ok a s) : Meets c g s (Pure.pure a) ok err := h

theorem Meets.throw {failure : Failure} (h : err failure s) :
    Meets c g s (throw failure : Engine α) ok err := h

theorem Meets.bind {Q : α → Surroundings → Prop} {ok : β → Surroundings → Prop}
    {f : α → Engine β} (first : Meets c g s x Q err)
    (second : ∀ a t, Q a t → Meets c g t (f a) ok err) : Meets c g s (x >>= f) ok err := by
  apply Program.Meets.bind first
  intro result t h
  cases result with
  | ok a => exact second a t h
  | error e => exact h

/-- One thing after another. How the first can fail has to be acceptable for both. -/
theorem Meets.seq {Q : α → Surroundings → Prop} {E : Failure → Surroundings → Prop}
    {ok : β → Surroundings → Prop} {f : α → Engine β} (first : Meets c g s x Q E)
    (failed : ∀ e t, E e t → err e t) (second : ∀ a t, Q a t → Meets c g t (f a) ok err) :
    Meets c g s (x >>= f) ok err :=
  Meets.bind (first.weaken (fun _ _ h => h) failed) second

/-- A program that cannot fail by itself, followed by one that can. -/
theorem Meets.bindLift {p : Program Effects α} {Q : α → Surroundings → Prop}
    {ok : β → Surroundings → Prop} {f : α → Engine β} (first : p.Meets c.Answers g.safe Q s)
    (second : ∀ a t, Q a t → Meets c g t (f a) ok err) :
    Meets c g s ((liftM p : Engine α) >>= f) ok err :=
  Meets.bind (Program.Meets.bind first fun _ _ h => h) second

theorem Meets.discard {ok : Unit → Surroundings → Prop}
    (valid : Meets c g s x (fun _ t => ok () t) err) : Meets c g s (discard x) ok err := by
  apply Program.Meets.bind valid
  intro result t h
  cases result with
  | ok a => exact h
  | error e => exact h

theorem Meets.within {context : String}
    (valid : Meets c g s x ok fun e t => err (.within context e) t) :
    Meets c g s (Reconciler.within context x) ok err := by
  apply Program.Meets.bind valid
  intro result t h
  cases result with
  | ok a => exact h
  | error e => exact h

/-- The context of a failure does not matter where the failure does not. -/
theorem Meets.inContext {context : String} {E : Surroundings → Prop}
    (valid : Meets c g s x ok fun _ => E) :
    Meets c g s (Reconciler.within context x) ok fun _ => E := Meets.within valid

/-- Telling listeners about a step changes nothing. -/
theorem Meets.step {stage : Stage} {name : String} {outcome : α → Outcome}
    (valid : Meets c g s x ok err) : Meets c g s (stage.step name outcome x) ok err := by
  rintro _ _ rfl
  refine ⟨fun deed => (deed trivial).elim, ?_⟩
  change Program.Meets _ _ _ (x.run >>= _) _
  apply Program.Meets.bind valid
  intro result t h
  rintro _ _ rfl
  exact ⟨fun deed => (deed trivial).elim, h⟩

theorem Meets.runStep {stage : Stage} {name : String} (valid : Meets c g s x ok err) :
    Meets c g s (Engine.runStep stage name x) ok err := Meets.step valid

theorem Meets.performStep {stage : Stage} {name : String} {x : Engine Outcome}
    {ok : Outcome → Surroundings → Prop} (valid : Meets c g s x ok err) :
    Meets c g s (Engine.performStep stage name x) ok err := Meets.step valid

/-- The beginning and the end of a stage are told and change nothing. -/
theorem Meets.report {notice : Notice} {ok : Unit → Surroundings → Prop} (h : ok () s) :
    Meets c g s (Reporter.report notice) ok err := by
  rintro _ _ rfl
  exact ⟨fun deed => (deed trivial).elim, h⟩

/-- An action for every item, in order. What holds between two of them may depend on the items that
are left. -/
theorem Meets.forEach {items : List α} {action : α → Engine Unit}
    {P : List α → Surroundings → Prop} (start : P items s)
    (each : ∀ item rest t, P (item :: rest) t →
      Meets c g t (action item) (fun _ => P rest) err) :
    Meets c g s (forEach items action) (fun _ => P []) err := by
  induction items generalizing s with
  | nil => exact start
  | cons item rest ih =>
    apply Meets.bind (each item rest s start)
    intro _ t h
    exact ih h

/-- What the action keeps for every item holds all the time. -/
theorem Meets.forEachKept {items : List α} {action : α → Engine Unit} {P : Surroundings → Prop}
    (start : P s) (each : ∀ item ∈ items, ∀ t, P t → Meets c g t (action item) (fun _ => P) err) :
    Meets c g s (Reconciler.forEach items action) (fun _ => P) err := by
  induction items generalizing s with
  | nil => exact start
  | cons item rest ih =>
    apply Meets.bind (each item (by simp) s start)
    intro _ t h
    exact ih h fun other member => each other (by simp [member])

theorem Meets.valid {result : Except ManifestFault α} (success : ∀ a, result = .ok a → ok a s)
    (failure : ∀ e, result = .error e → err (.validation e) s) :
    Meets c g s (Engine.valid result) ok err := by
  cases result with
  | ok a => exact success a rfl
  | error e => exact failure e rfl

theorem Meets.consistent {result : Except StateFault α} (success : ∀ a, result = .ok a → ok a s)
    (failure : ∀ e, result = .error e → err (.invalidState e) s) :
    Meets c g s (Engine.consistent result) ok err := by
  cases result with
  | ok a => exact success a rfl
  | error e => exact failure e rfl

theorem Meets.freshId {ok : String → Surroundings → Prop}
    (given : ∀ id, id ≠ "" → id ∉ s.ids → ok id (s.issued id)) :
    Meets c g s Engine.freshId ok err := by
  rintro id t ⟨named, new, rfl⟩
  exact ⟨fun deed => (deed trivial).elim, given id named new⟩

/-- A call to the cloud with its error as a value. -/
theorem tryCloud_meets {call : CloudCall}
    {Q : Except CloudError call.Answer → Surroundings → Prop}
    (allowed : ¬Request.IsQuiet (.cloud call) → g s (.cloud call))
    (served : ∀ answer, s.Unused call answer → Q (.ok answer) (s.served call answer))
    (failed : ∀ error : CloudError, c.mayFail s.cloud (.cloud call) →
      (c.honest → ∀ kind cid, call.deleted = some (kind, cid) → call.absence = some error.kind →
        cid ∉ s.cloud kind) →
      Q (.error error) (s.noted ⟨.cloud call, .error error⟩)) :
    (tryCloud call).Meets c.Answers g.safe Q s := by
  intro reply t answered
  refine ⟨allowed, ?_⟩
  match reply with
  | .ok answer =>
    obtain ⟨unused, rfl⟩ := answered
    exact served answer unused
  | .error error =>
    obtain ⟨may, honest, rfl⟩ := answered
    exact failed error may honest

theorem Meets.cloud {call : CloudCall} {ok : call.Answer → Surroundings → Prop}
    (allowed : ¬Request.IsQuiet (.cloud call) → g s (.cloud call))
    (served : ∀ answer, s.Unused call answer → ok answer (s.served call answer))
    (failed : ∀ error : CloudError, c.mayFail s.cloud (.cloud call) →
      err (.cloud error) (s.noted ⟨.cloud call, .error error⟩)) :
    Meets c g s (Engine.cloud call) ok err := by
  refine Program.Meets.bind (tryCloud_meets
    (Q := fun result t => Ends ok err (result.mapError .cloud) t)
    allowed served fun error may _ => failed error may) fun result t h => h

theorem Meets.agent {call : AgentCall} {ok : call.Answer → Surroundings → Prop}
    (allowed : ¬Request.IsQuiet (.agent call) → g s (.agent call))
    (answered : ∀ answer, (c.running → call.Running answer) →
      ok answer (s.noted ⟨.agent call, .ok answer⟩))
    (failed : ∀ failure, c.mayFail s.cloud (.agent call) →
      err failure (s.noted ⟨.agent call, .error failure⟩)) :
    Meets c g s (Engine.agent call) ok err := by
  intro reply t answer
  refine ⟨allowed, ?_⟩
  match reply with
  | .ok value =>
    obtain ⟨running, rfl⟩ := answer
    exact answered value running
  | .error failure =>
    obtain ⟨may, rfl⟩ := answer
    exact failed failure may

theorem Meets.skipIfGone {gone : CloudErrorKind} {reason : Failure → String} {x : Engine Unit}
    {ok : Outcome → Surroundings → Prop}
    (valid : Meets c g s x (fun _ => ok .finished) fun e t =>
      if e.cloudKind = some gone then ok (.skipped (reason e)) t else err e t) :
    Meets c g s (skipIfGone gone reason x) ok err := by
  apply Program.Meets.bind valid
  intro result t h
  cases result with
  | ok a => exact h
  | error e =>
    by_cases isGone : e.cloudKind = some gone
    · simp only [Ends, if_pos isGone] at h ⊢
      exact h
    · simp only [Ends, if_neg isGone] at h ⊢
      exact h

theorem Meets.deleteThenForget {deletion : Program Effects (Except CloudError Unit)}
    {gone : CloudErrorKind} {context : String} {forget : Engine Unit}
    {ok : Unit → Surroundings → Prop} {Q : Except CloudError Unit → Surroundings → Prop}
    (deleted : deletion.Meets c.Answers g.safe Q s)
    (served : ∀ t, Q (.ok ()) t → Meets c g t forget ok err)
    (absent : ∀ error t, Q (.error error) t → error.kind = gone →
      Meets c g t forget (fun _ => err (.cloud error)) err)
    (failed : ∀ error t, Q (.error error) t → error.kind ≠ gone →
      err (.within context (.cloud error)) t) :
    Meets c g s (deleteThenForget deletion gone context forget) ok err := by
  apply Meets.bindLift deleted
  intro result t h
  match result with
  | .ok () => exact served t h
  | .error error =>
    by_cases isGone : error.kind = gone
    · simp only [if_pos isGone]
      exact Meets.bind (absent error t h isGone) fun _ u h => h
    · simp only [if_neg isGone]
      exact failed error t h isGone

/-- What holds at the beginning of a run holds again at its end, well or not. -/
def Keeps (c : Conduct) (g : Guard) (P : Surroundings → Prop) (x : Engine α) : Prop :=
  ∀ s, P s → Meets c g s x (fun _ => P) fun _ => P

section Keeps

variable {P : Surroundings → Prop} {f : α → Engine β} {stage : Stage} {name context : String}

theorem Keeps.pure (a : α) : Keeps c g P (Pure.pure a) := fun _ holds => holds

theorem Keeps.throw (failure : Failure) : Keeps c g P (throw failure : Engine α) :=
  fun _ holds => holds

theorem Keeps.bind (first : Keeps c g P x) (second : ∀ a, Keeps c g P (f a)) :
    Keeps c g P (x >>= f) := fun s holds => Meets.bind (first s holds) fun a t => second a t

theorem Keeps.within (kept : Keeps c g P x) : Keeps c g P (Reconciler.within context x) :=
  fun s holds => Meets.within (kept s holds)

theorem Keeps.discard (kept : Keeps c g P x) : Keeps c g P (discard x) :=
  fun s holds => Meets.discard (kept s holds)

theorem Keeps.step {outcome : α → Outcome} (kept : Keeps c g P x) :
    Keeps c g P (stage.step name outcome x) := fun s holds => Meets.step (kept s holds)

theorem Keeps.report (notice : Notice) : Keeps c g P (Reporter.report notice : Engine Unit) :=
  fun _ holds => Meets.report holds

theorem Keeps.forEach {items : List α} {action : α → Engine Unit}
    (each : ∀ item, Keeps c g P (action item)) : Keeps c g P (forEach items action) :=
  fun _ holds => Meets.forEachKept holds fun item _ => each item

theorem Keeps.skipIfGone {gone : CloudErrorKind} {reason : Failure → String} {x : Engine Unit}
    (kept : Keeps c g P x) : Keeps c g P (skipIfGone gone reason x) := by
  refine fun s holds => Meets.skipIfGone ((kept s holds).weaken (fun _ _ h => h) fun e t h => ?_)
  split
  · exact h
  · exact h

theorem Keeps.deleteThenForget {gone : CloudErrorKind} {context : String}
    {deletion : Program Effects (Except CloudError Unit)} {forget : Engine Unit}
    (deletes : ∀ s, P s → deletion.Meets c.Answers g.safe (fun _ => P) s)
    (forgets : Keeps c g P forget) :
    Keeps c g P (deleteThenForget deletion gone context forget) :=
  fun s holds => Meets.deleteThenForget (deletes s holds) forgets
    (fun _ t kept _ => forgets t kept) fun _ _ kept _ => kept

theorem Keeps.valid (result : Except ManifestFault α) : Keeps c g P (Engine.valid result) :=
  fun _ holds => Meets.valid (fun _ _ => holds) fun _ _ => holds

end Keeps

/-- A value that is thrown away is not waited for. -/
theorem discard_bind {m : Type → Type} [Monad m] [LawfulMonad m] (x : m α) (f : Unit → m β) :
    (Functor.discard x >>= f) = x >>= fun _ => f () := by
  simp [Functor.discard, LawfulFunctor.map_const]

end Engine

/-!
What a stateful program does to its surroundings, as an engine program that hands the value on, or
as a program that gives it back whether or not it fails.
-/
namespace Stateful

variable {σ α β : Type}

@[simp] theorem toEngine_pure (a : α) (value : σ) :
    (pure a : Stateful σ α).toEngine value = pure (a, value) := rfl

@[simp] theorem toEngine_get (value : σ) :
    (get : Stateful σ σ).toEngine value = pure (value, value) := rfl

@[simp] theorem toEngine_modify (f : σ → σ) (value : σ) :
    (modify f : Stateful σ Unit).toEngine value = pure ((), f value) := rfl

@[simp] theorem toEngine_bind (x : Stateful σ α) (f : α → Stateful σ β) (value : σ) :
    (x >>= f).toEngine value = x.toEngine value >>= fun r => (f r.1).toEngine r.2 := by
  change (x value >>= _) >>= _ = (x value >>= _) >>= _
  rw [bind_assoc, bind_assoc]
  apply bind_congr
  intro r
  obtain ⟨result, after⟩ := r
  cases result with
  | ok a => rfl
  | error e => rfl

@[simp] theorem toEngine_discard (x : Stateful σ α) (value : σ) :
    Stateful.toEngine (discard x) value = (do return ((), (← x.toEngine value).2)) := by
  change ((x value >>= _) >>= _) = (x value >>= _) >>= _
  rw [bind_assoc, bind_assoc]
  apply bind_congr
  intro r
  obtain ⟨result, after⟩ := r
  cases result with
  | ok a => rfl
  | error e => rfl

@[simp] theorem toEngine_engine (x : Engine α) (value : σ) :
    (liftM x : Stateful σ α).toEngine value = (do return (← x, value)) := by
  change (x.run >>= _) >>= _ = x.run >>= _
  rw [bind_assoc]
  apply bind_congr
  intro result
  cases result with
  | ok a => rfl
  | error e => rfl

@[simp] theorem toEngine_program (p : Program Effects α) (value : σ) :
    (liftM p : Stateful σ α).toEngine value = (do return (← (p : Engine α), value)) := by
  change ((p >>= _) >>= _) >>= _ = (p >>= _) >>= _
  simp only [bind_assoc]
  rfl

@[simp] theorem toEngine_state (x : StateT σ (Program Effects) α) (value : σ) :
    (liftM x : Stateful σ α).toEngine value = (liftM (x.run value) : Engine (α × σ)) := by
  change ((x.run value >>= _) >>= _) = x.run value >>= _
  rw [bind_assoc]
  rfl

theorem runOn_bind (x : Stateful σ α) (f : α → Stateful σ β) :
    (x >>= f).runOn value = x.runOn value >>= fun r => match r with
      | (.ok a, after) => (f a).runOn after
      | (.error failure, after) => pure (.error failure, after) := by
  change x.runOn value >>= _ = _
  apply bind_congr
  rintro ⟨_ | _, _⟩
  · rfl
  · rfl

theorem runOn_get (f : σ → Stateful σ β) : (get >>= f).runOn value = (f value).runOn value := by
  rw [runOn_bind]
  rfl

theorem runOn_modify (g : σ → σ) (f : Unit → Stateful σ β) :
    (modify g >>= f).runOn value = (f ()).runOn (g value) := by
  rw [runOn_bind]
  rfl

theorem runOn_state (x : StateT σ (Program Effects) α) (f : α → Stateful σ β) :
    ((liftM x : Stateful σ α) >>= f).runOn value =
      x.run value >>= fun r => (f r.1).runOn r.2 := by
  rw [runOn_bind]
  change (x.run value >>= _) >>= _ = _
  rw [bind_assoc]
  rfl

theorem runOn_engine (x : Engine α) (f : α → Stateful σ β) :
    ((liftM x : Stateful σ α) >>= f).runOn value = x.run >>= fun result => match result with
      | .ok a => (f a).runOn value
      | .error failure => pure (.error failure, value) := by
  rw [runOn_bind]
  change (x.run >>= _) >>= _ = _
  rw [bind_assoc]
  apply bind_congr
  rintro (_ | _)
  · rfl
  · rfl

end Stateful

end Reconciler
