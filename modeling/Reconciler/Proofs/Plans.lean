import Reconciler.Proofs.Deletions
import Reconciler.Proofs.Requests

/-!
Plans: which calls an operation makes to the cloud and the agent, and in which order. A run makes
the calls of its plan from the front, and stops at one that fails, or between two of them where the
store fails. What is asked of the store is no part of a plan, though it may settle which plan it is.
-/
namespace Reconciler

open Engine Repository

/-- To the cloud or to an agent. -/
def Request.isCall : Request → Bool
  | .cloud _ | .agent _ => true
  | _ => false

/-- Calls to the cloud and the agent, without the attempts to save. -/
def Surroundings.deeds (s : Surroundings) : List Exchange := s.calls.filter (·.request.isCall)

theorem Request.IsRecord.not_call {r : Request} (record : r.IsRecord) : r.isCall = false := by
  cases r with
  | cloud | agent => exact record.elim
  | _ => rfl

/-- All moves went well, with these exchanges. -/
def Follows (moves : List Move) (calls : List Exchange) : Prop :=
  ∀ phase, Course moves phase calls true phase

/-- A move failed and nothing was done after it, or the store may fail and nothing was done after
some of the moves. -/
def Stops (c : Conduct) (moves : List Move) (calls : List Exchange) : Prop :=
  (∀ phase, Course moves phase calls false phase) ∨
    c.StoreFails ∧ ∃ made, made <+: moves ∧ Follows made calls

variable {c : Conduct} {s t u : Surroundings} {moves others : List Move}
  {calls later : List Exchange}

theorem Follows.nothing : Follows [] [] := fun phase => .done phase

theorem Follows.append (first : Follows moves calls) (second : Follows others later) :
    Follows (moves ++ others) (calls ++ later) := fun phase => (first phase).append (second phase)

theorem Stops.early (stops : Stops c moves calls) : Stops c (moves ++ others) calls := by
  obtain failed | ⟨fails, made, front, followed⟩ := stops
  · exact .inl fun phase => (failed phase).stops
  · exact .inr ⟨fails, made, front.trans (List.prefix_append _ _), followed⟩

theorem Stops.after (stops : Stops c others later) (first : Follows moves calls) :
    Stops c (moves ++ others) (calls ++ later) := by
  obtain failed | ⟨fails, made, ⟨rest, rfl⟩, followed⟩ := stops
  · exact .inl fun phase => (first phase).append (failed phase)
  · refine .inr ⟨fails, moves ++ made, ⟨rest, List.append_assoc ..⟩, first.append followed⟩

section Carries

variable {ι κ α β : Type} {x : Engine α} {ok : α → Surroundings → Prop}

/-- A run makes the calls of a plan, to its end or up to where it stops. What the surroundings
decide on the way, the plan has as a parameter. -/
def Engine.Carries (c : Conduct) (s : Surroundings) (x : Engine α) (plan : ι → List Move)
    (post : ι → α → Surroundings → Prop) : Prop :=
  Meets c .none s x
    (fun a t => ∃ k calls, t.deeds = s.deeds ++ calls ∧ Follows (plan k) calls ∧ post k a t)
    fun _ t => ∃ k calls, t.deeds = s.deeds ++ calls ∧ Stops c (plan k) calls

namespace Engine.Carries

variable {plan : ι → List Move} {post : ι → α → Surroundings → Prop}

theorem weaken {post' : ι → α → Surroundings → Prop} (carries : Carries c s x plan post)
    (implies : ∀ k a t, post k a t → post' k a t) : Carries c s x plan post' := by
  refine Meets.weaken carries ?_ fun _ _ h => h
  rintro a t ⟨k, calls, made, followed, reached⟩
  exact ⟨k, calls, made, followed, implies k a t reached⟩

/-- The same plan with another parameter. -/
theorem reindex {plan' : κ → List Move} {post' : κ → α → Surroundings → Prop}
    (carries : Carries c s x plan post)
    (same : ∀ k, ∃ l, plan' l = plan k ∧ ∀ a t, post k a t → post' l a t) :
    Carries c s x plan' post' := by
  refine Meets.weaken carries ?_ ?_
  · rintro a t ⟨k, calls, made, followed, reached⟩
    obtain ⟨l, same, implies⟩ := same k
    exact ⟨l, calls, made, same ▸ followed, implies a t reached⟩
  · rintro _ t ⟨k, calls, made, stopped⟩
    obtain ⟨l, same, -⟩ := same k
    exact ⟨l, calls, made, same ▸ stopped⟩

theorem and (carries : Carries c s x plan post) {err : Failure → Surroundings → Prop}
    (valid : Meets c .none s x ok err) :
    Carries c s x plan fun k a t => post k a t ∧ ok a t := by
  refine (Meets.and carries valid).weaken ?_ fun _ _ h => h.1
  rintro a t ⟨⟨k, calls, made, followed, reached⟩, known⟩
  exact ⟨k, calls, made, followed, reached, known⟩

theorem pure {a : α} (k : ι) (nothing : plan k = []) (reached : post k a s) :
    Carries c s (Pure.pure a) plan post :=
  Meets.pure ⟨k, [], (List.append_nil _).symm, nothing ▸ Follows.nothing, reached⟩

theorem map {f : α → β} {post' : ι → β → Surroundings → Prop} (carries : Carries c s x plan post)
    (implies : ∀ k a t, post k a t → post' k (f a) t) :
    Carries c s (do return f (← x)) plan post' := by
  refine Meets.seq carries (fun _ _ h => h) ?_
  rintro a t ⟨k, calls, made, followed, reached⟩
  exact Meets.pure ⟨k, calls, made, followed, implies k a t reached⟩

theorem bind [Nonempty κ] {f : α → Engine β} {plan' : ι → κ → List Move}
    {post' : ι → κ → β → Surroundings → Prop} (first : Carries c s x plan post)
    (second : ∀ k a t, post k a t → Carries c t (f a) (plan' k) (post' k)) :
    Carries c s (x >>= f) (fun k : ι × κ => plan k.1 ++ plan' k.1 k.2) fun k => post' k.1 k.2 := by
  refine Meets.seq first ?_ ?_
  · rintro _ t ⟨k, calls, made, stopped⟩
    obtain ⟨l⟩ := ‹Nonempty κ›
    exact ⟨(k, l), calls, made, stopped.early⟩
  · rintro a t ⟨k, calls, made, followed, reached⟩
    apply Meets.weaken (second k a t reached)
    · rintro b u ⟨l, later, made', followed', reached'⟩
      refine ⟨(k, l), calls ++ later, ?_, followed.append followed', reached'⟩
      rw [made', made, List.append_assoc]
    · rintro _ u ⟨l, later, made', stopped⟩
      refine ⟨(k, l), calls ++ later, ?_, stopped.after followed⟩
      rw [made', made, List.append_assoc]

theorem within {context : String} (carries : Carries c s x plan post) :
    Carries c s (Reconciler.within context x) plan post := Meets.inContext carries

theorem discard {P : ι → Surroundings → Prop} (carries : Carries c s x plan fun k _ => P k) :
    Carries c s (Functor.discard x) plan fun k _ => P k := Meets.discard carries

theorem runStep {stage : Stage} {name : String} (carries : Carries c s x plan post) :
    Carries c s (Engine.runStep stage name x) plan post := Meets.runStep carries

/-- Nothing is decided yet. -/
theorem seq {plan : List Move} {plan' : κ → List Move} {f : α → Engine β} [Nonempty κ]
    {post' : κ → β → Surroundings → Prop} (first : Carries c s x (fun _ : Unit => plan) fun _ => ok)
    (second : ∀ a t, ok a t → Carries c t (f a) plan' post') :
    Carries c s (x >>= f) (fun k => plan ++ plan' k) post' :=
  (first.bind fun _ => second).reindex fun k => ⟨k.2, rfl, fun _ _ h => h⟩

theorem forEach {items : List α} {action : α → Engine Unit} {plan : α → Move}
    {P : List α → Surroundings → Prop} (start : P items s)
    (each : ∀ item rest t, P (item :: rest) t →
      Carries c t (action item) (fun _ : Unit => [plan item]) fun _ _ => P rest) :
    Carries c s (forEach items action) (fun _ : Unit => items.map plan) fun _ _ => P [] := by
  induction items generalizing s with
  | nil => exact pure () rfl start
  | cons item rest ih => exact seq (each item rest s start) fun _ t h => ih h

end Engine.Carries

/-- Of what is asked, calls are kept, and nothing else. -/
theorem Engine.Asks.grows {allowed : Request → Prop} (asks : x.Asks allowed) :
    let grown (t : Surroundings) := ∃ calls, t.deeds = s.deeds ++ calls ∧
      ∀ e ∈ calls, e.request.isCall = true ∧ allowed e.request
    Meets c .none s x (fun _ => grown) fun _ => grown := by
  let Grown (s t : Surroundings) : Prop := ∃ calls, t.deeds = s.deeds ++ calls ∧
    ∀ e ∈ calls, e.request.isCall = true ∧ allowed e.request
  have step (s : Surroundings) (r : Request) (reply : r.Reply) (t : Surroundings)
      (may : allowed r) (answered : c.Answers s r reply t) : Grown s t := by
    obtain same | noted := answered.noted
    · exact ⟨[], by simp [Surroundings.deeds, same], nofun⟩
    · refine ⟨[⟨r, reply⟩].filter (·.request.isCall), by simp [Surroundings.deeds, noted], ?_⟩
      intro e member
      obtain ⟨same, call⟩ := List.mem_filter.mp member
      cases List.mem_singleton.mp same
      exact ⟨call, may⟩
  have trans (s t u : Surroundings) (first : Grown s t) (second : Grown t u) : Grown s u := by
    obtain ⟨calls, made, may⟩ := first
    obtain ⟨later, made', may'⟩ := second
    refine ⟨calls ++ later, by rw [made', made, List.append_assoc], fun e member => ?_⟩
    exact (List.mem_append.mp member).elim (may e) (may' e)
  have kept := Program.Only.tracks (R := Grown) asks
    (fun _ => ⟨[], (List.append_nil _).symm, nofun⟩) trans step s
  refine (kept.weaken ?_).restrict (fun _ _ _ _ h => h) fun _ _ _ _ _ _ _ => trivial
  rintro (e | a) t grown
  · exact grown
  · exact grown

/-- What is asked of the store is no call. -/
theorem Engine.Asks.keepsDeeds (asks : x.Asks Request.IsRecord) :
    Meets c .none s x (fun _ t => t.deeds = s.deeds) fun _ t => t.deeds = s.deeds := by
  have kept (t : Surroundings) (grown : ∃ calls, t.deeds = s.deeds ++ calls ∧
      ∀ e ∈ calls, e.request.isCall = true ∧ e.request.IsRecord) : t.deeds = s.deeds := by
    obtain ⟨calls, made, may⟩ := grown
    have nothing : calls = [] := by
      refine List.eq_nil_iff_forall_not_mem.mpr fun e member => ?_
      obtain ⟨call, record⟩ := may e member
      cases call.symm.trans record.not_call
    rw [made, nothing, List.append_nil]
  exact asks.grows.weaken (fun _ t => kept t) fun _ t => kept t

theorem Engine.Asks.carries (asks : x.Asks Request.IsRecord) {err : Failure → Surroundings → Prop}
    (valid : Meets c .none s x ok err) (store : ∀ e t, err e t → c.StoreFails) :
    Carries c s x (fun _ : Unit => []) fun _ => ok := by
  refine (valid.and asks.keepsDeeds).weaken ?_ ?_
  · rintro a t ⟨reached, kept⟩
    exact ⟨(), [], by rw [kept, List.append_nil], Follows.nothing, reached⟩
  · rintro e t ⟨lost, kept⟩
    refine ⟨(), [], by rw [kept, List.append_nil], .inr ⟨store e t lost, [], ?_, Follows.nothing⟩⟩
    exact List.nil_prefix

/-- The cloud does what it is asked, with this answer. -/
def Move.cloud (call : CloudCall) (answer : call.Answer) : Move :=
  .call (.cloud call) (· = .ok answer)

/-- What the call was to delete is not there any more, as the cloud tells. -/
def CloudCall.IsGone (call : CloudCall) : Except CloudError call.Answer → Prop
  | .ok _ => True
  | .error error => call.absence = some error.kind

/-- The call was made, and this is how it ended. -/
def CloudCall.Told {γ : Type} (call : CloudCall) (s : Surroundings) :
    Except CloudError γ → Surroundings → Prop
  | .ok _, t => ∃ answer, t.deeds = s.deeds ++ [⟨.cloud call, .ok answer⟩]
  | .error error, t => t.deeds = s.deeds ++ [⟨.cloud call, .error error⟩]

/-- What the call deletes is deleted, or is gone already. -/
def Move.delete (call : CloudCall) : Move := .call (.cloud call) call.IsGone

section Calls

variable {r : Request} {good : r.Reply → Prop} {reply : r.Reply}

theorem Follows.call (went : good reply) : Follows [.call r good] [⟨r, reply⟩] :=
  Course.called went

theorem Stops.call (failed : r.Failed reply) (bad : ¬good reply) :
    Stops c [.call r good] [⟨r, reply⟩] := .inl (Course.refused failed bad)

theorem Follows.single (followed : Follows [.call r good] calls) :
    ∃ reply, good reply ∧ calls = [⟨r, reply⟩] := by
  cases followed .running with
  | passes passed later =>
    cases later
    obtain ⟨reply, went, rfl⟩ := passed
    exact ⟨reply, went, List.append_nil _⟩

theorem Stops.single (stops : Stops c [.call r good] calls) : ∀ e ∈ calls, e.request = r := by
  have made {reply : r.Reply} (same : calls = [⟨r, reply⟩]) : ∀ e ∈ calls, e.request = r := by
    subst same
    intro e member
    rw [List.mem_singleton.mp member]
  obtain failed | ⟨-, some, front, followed⟩ := stops
  · cases failed .running with
    | passes _ later => cases later
    | fails failed =>
      obtain ⟨reply, -, -, same⟩ := failed
      exact made same
  · obtain rfl | ⟨rest, rfl, nothing⟩ := List.prefix_cons_iff.mp front
    · cases followed .running
      exact nofun
    · rw [List.prefix_nil.mp nothing] at followed
      obtain ⟨reply, -, same⟩ := followed.single
      exact made same

end Calls

namespace Engine

theorem tryCloud_told (call : CloudCall) :
    (tryCloud call).Meets c.Answers Guard.none.safe (call.Told s) s := by
  apply tryCloud_meets fun _ => trivial
  · intro answer _
    exact ⟨answer, by simp [Surroundings.deeds, Surroundings.served, Request.isCall]⟩
  · intro error _ _
    simp [CloudCall.Told, Surroundings.deeds, Surroundings.noted, Request.isCall]

/-- What is forgotten after a deletion is no call of its own, and only the store can stop it. -/
theorem forget_carries {call : CloudCall} {reply : Except CloudError call.Answer}
    {forget : Engine Unit} (asks : forget.Asks Request.IsRecord)
    (forgets : Meets c .none t forget (fun _ _ => True) fun e _ => c.StoreFailure e)
    (gone : call.IsGone reply) (made : t.deeds = s.deeds ++ [⟨.cloud call, reply⟩]) :
    Meets c .none t forget
      (fun _ u => ∃ calls, u.deeds = s.deeds ++ calls ∧ Follows [.delete call] calls)
      fun e u => e.cloudKind = none ∧
        ∃ calls, u.deeds = s.deeds ++ calls ∧ Stops c [.delete call] calls := by
  apply (forgets.and asks.keepsDeeds).weaken
  · rintro _ u ⟨-, kept⟩
    exact ⟨_, kept.trans made, Follows.call gone⟩
  · rintro e u ⟨lost, kept⟩
    refine ⟨lost.cloudKind, _, kept.trans made, ?_⟩
    exact .inr ⟨lost.2, _, List.prefix_refl _, Follows.call gone⟩

/-- The one call of a deletion step. What is gone already is forgotten too. -/
theorem carries_deletion {call : CloudCall} {gone : CloudErrorKind} {context name : String}
    {stage : Stage} {reason : Failure → String}
    {deletion : Program Effects (Except CloudError Unit)} {forget : Engine Unit}
    (absence : call.absence = some gone)
    (deleted : deletion.Meets c.Answers Guard.none.safe (call.Told s) s)
    (asks : forget.Asks Request.IsRecord)
    (forgets : ∀ t, Meets c .none t forget (fun _ _ => True) fun e _ => c.StoreFailure e) :
    Carries c s (Engine.performStep stage name (Reconciler.skipIfGone gone reason
      (Reconciler.deleteThenForget deletion gone context forget)))
      (fun _ : Unit => [.delete call]) fun _ _ _ => True := by
  apply Meets.performStep
  apply Meets.skipIfGone
  apply Meets.deleteThenForget deleted
  · rintro t ⟨answer, made⟩
    have gone : call.IsGone (.ok answer) := trivial
    apply (forget_carries asks (forgets t) gone made).weaken
    · rintro _ u ⟨calls, made, followed⟩
      exact ⟨(), calls, made, followed, trivial⟩
    · rintro e u ⟨other, stopped⟩
      rw [if_neg (by simp [other])]
      exact ⟨(), stopped⟩
  · rintro error t made rfl
    have gone : call.IsGone (.error error) := absence
    apply (forget_carries asks (forgets t) gone made).weaken
    · rintro _ u ⟨calls, made, followed⟩
      have isGone : (Failure.cloud error).cloudKind = some error.kind := rfl
      rw [if_pos isGone]
      exact ⟨(), calls, made, followed, trivial⟩
    · rintro e u ⟨other, stopped⟩
      rw [if_neg (by simp [other])]
      exact ⟨(), stopped⟩
  · intro error t made other
    have present : (Failure.within context (.cloud error)).cloudKind ≠ some gone :=
      fun same => other (Option.some.inj same)
    rw [if_neg present]
    refine ⟨(), _, made, Stops.call trivial fun isGone => other ?_⟩
    exact (Option.some.inj (absence.symm.trans isGone)).symm

end Engine

end Carries

section Steps

variable {stage : Stage} {name : String}

/-- Only the store can stop a change of the document. -/
theorem update_stops {context : String} (edit : Document → Document) :
    Meets c .none s (within context (update edit)) (fun _ _ => True)
      fun e _ => c.StoreFailure e :=
  Meets.within (update_meets (fun _ _ => trivial) (fun _ _ => trivial) fun _ _ lost _ => lost)

theorem DiskRecord.deleteInStep_calls (disk : DiskRecord) :
    Carries c s (disk.deleteInStep stage name) (fun _ : Unit => [.delete (.deleteDisk disk.cid)])
      fun _ _ _ => True := by
  refine Carries.discard (carries_deletion rfl (tryCloud_told _) ?_ fun t => ?_)
  · apply Asks.bind (read_asks _).within
    intro found
    cases found with
    | none => exact .pure ()
    | some record => exact (update_asks _).within
  · apply Meets.bind (Q := fun _ _ => True)
      (Meets.within (read_meets (fun _ _ => trivial) fun _ lost => lost))
    intro found u _
    cases found with
    | none => exact Meets.pure trivial
    | some record => exact update_stops _

theorem StemcellRecord.deleteInStep_calls (stemcell : StemcellRecord) :
    Carries c s (stemcell.deleteInStep stage name)
      (fun _ : Unit => [.delete (.deleteStemcell stemcell.cid)]) fun _ _ _ => True :=
  .discard (carries_deletion rfl (tryCloud_told _) (update_asks _).within fun _ => update_stops _)

theorem Vm.deleteInStep_calls (vm : Vm) {reason : Failure → String} :
    Carries c s (Engine.performStep stage name (skipIfGone .vmNotFound reason vm.delete))
      (fun _ : Unit => [.delete (.deleteVm vm.cid)]) fun _ _ _ => True := by
  refine carries_deletion rfl (tryCloud_told _) ?_ fun t => ?_
  · exact .bind (update_asks _).within fun _ => (update_asks _).within
  · exact Meets.bind (update_stops _) fun _ _ _ => update_stops _

end Steps

end Reconciler
