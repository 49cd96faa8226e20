import Reconciler.Deployment.Deploy
import Reconciler.Proofs.Courses

/-!
What a program asks at all, whatever it is replied. The repositories ask a store, and what talks to
a machine asks its agent and the clock; neither tells listeners anything.
-/
namespace Reconciler

namespace Program

variable {S : Signature} {α β σ : Type} {p : Program S α} {allowed allowed' : S.Request → Prop}

/-- Every request is one of those that are allowed. -/
def Only (allowed : S.Request → Prop) : Program S α → Prop
  | .done _ => True
  | .ask r next => allowed r ∧ ∀ reply, Only allowed (next reply)

theorem Only.weaken (only : p.Only allowed) (more : ∀ r, allowed r → allowed' r) :
    p.Only allowed' := by
  induction p with
  | done => trivial
  | ask r next ih => exact ⟨more r only.1, fun reply => ih reply (only.2 reply)⟩

theorem Only.bind {f : α → Program S β} (first : p.Only allowed)
    (second : ∀ a, (f a).Only allowed) : (p >>= f).Only allowed := by
  induction p with
  | done a => exact second a
  | ask r next ih => exact ⟨first.1, fun reply => ih reply (first.2 reply)⟩

/-- A relation that every allowed exchange keeps ties the end of a run to its beginning. -/
theorem Only.tracks {answers : Behaviour S σ} {R : σ → σ → Prop} (only : p.Only allowed)
    (refl : ∀ s, R s s) (trans : ∀ s t u, R s t → R t u → R s u)
    (step : ∀ s r reply t, allowed r → answers s r reply t → R s t) (s : σ) :
    p.Meets answers (fun _ _ _ _ => True) (fun _ t => R s t) s := by
  induction p generalizing s with
  | done => exact refl s
  | ask r next ih =>
    intro reply t answered
    refine ⟨trivial, (ih reply (only.2 reply) t).weaken fun a u later => ?_⟩
    exact trans s t u (step s r reply t only.1 answered) later

end Program

namespace Request

/-- Requests to the store, and for what a record needs. -/
def IsRecord : Request → Prop
  | .load | .save _ | .freshId => True
  | _ => False

/-- Talk with an agent, on the way to it, and about the time. -/
def IsTalk : Request → Prop
  | .agent _ | .render _ | .connect _ | .forward .. | .close _ | .now | .sleep _ => True
  | _ => False

/-- No listener hears of it. -/
def IsSilent (r : Request) : Prop := r.isNotice = false

theorem IsRecord.silent {r : Request} (record : r.IsRecord) : r.IsSilent := by
  cases r with
  | report => exact record.elim
  | _ => rfl

theorem IsTalk.silent {r : Request} (talk : r.IsTalk) : r.IsSilent := by
  cases r with
  | report => exact talk.elim
  | _ => rfl

theorem IsTalk.not_record {r : Request} (talk : r.IsTalk) : ¬r.IsRecord := by
  cases r with
  | load | save | freshId => exact talk.elim
  | _ => exact id

end Request

variable {α β : Type}

namespace Engine

/-- Whatever it is replied, it asks nothing else. -/
def Asks (allowed : Request → Prop) (x : Engine α) : Prop := x.run.Only allowed

variable {allowed allowed' : Request → Prop} {x : Engine α}

namespace Asks

theorem weaken (asks : x.Asks allowed) (more : ∀ r, allowed r → allowed' r) : x.Asks allowed' :=
  Program.Only.weaken asks more

/-- Listeners hear nothing of what is asked of a store. -/
theorem ofRecords (asks : x.Asks Request.IsRecord) : x.Asks Request.IsSilent :=
  asks.weaken fun _ => Request.IsRecord.silent

theorem ofTalk (asks : x.Asks Request.IsTalk) : x.Asks Request.IsSilent :=
  asks.weaken fun _ => Request.IsTalk.silent

theorem pure (a : α) : (Pure.pure a : Engine α).Asks allowed := trivial

theorem throw (failure : Failure) : (throw failure : Engine α).Asks allowed := trivial

theorem bind {f : α → Engine β} (first : x.Asks allowed) (second : ∀ a, (f a).Asks allowed) :
    (x >>= f).Asks allowed := by
  apply Program.Only.bind first
  intro result
  cases result with
  | ok a => exact second a
  | error => trivial

theorem bindLift {p : Program Effects α} {f : α → Engine β} (first : p.Only allowed)
    (second : ∀ a, (f a).Asks allowed) : ((liftM p : Engine α) >>= f).Asks allowed :=
  bind (Program.Only.bind first fun _ => trivial) second

theorem within {context : String} (asks : x.Asks allowed) :
    (Reconciler.within context x).Asks allowed := Program.Only.bind asks fun _ => trivial

theorem valid (result : Except ManifestFault α) : (Engine.valid result).Asks allowed := by
  cases result with
  | ok => trivial
  | error => trivial

theorem consistent (result : Except StateFault α) : (Engine.consistent result).Asks allowed := by
  cases result with
  | ok => trivial
  | error => trivial

theorem cloud {call : CloudCall} (may : allowed (.cloud call)) :
    (Engine.cloud call).Asks allowed := ⟨may, fun _ => trivial⟩

theorem agent {call : AgentCall} (may : allowed (.agent call)) :
    (Engine.agent call).Asks allowed := ⟨may, fun _ => trivial⟩

theorem render {call : RenderCall} (may : allowed (.render call)) :
    (Engine.render call).Asks allowed := ⟨may, fun _ => trivial⟩

theorem skipIfGone {gone : CloudErrorKind} {reason : Failure → String} {x : Engine Unit}
    (asks : x.Asks allowed) : (skipIfGone gone reason x).Asks allowed := by
  apply Program.Only.bind asks
  intro result
  cases result with
  | ok => trivial
  | error =>
    dsimp only
    split
    · trivial
    · trivial

theorem deleteThenForget {deletion : Program Effects (Except CloudError Unit)}
    {gone : CloudErrorKind} {context : String} {forget : Engine Unit}
    (deletes : deletion.Only allowed) (forgets : forget.Asks allowed) :
    (deleteThenForget deletion gone context forget).Asks allowed := by
  apply bindLift deletes
  intro result
  match result with
  | .ok () => exact forgets
  | .error error =>
    dsimp only
    split
    · exact bind forgets fun _ => throw _
    · exact throw _

/-- A step that is told to listeners. -/
theorem step {stage : Stage} {name : String} {outcome : α → Outcome}
    (notices : ∀ notice, allowed (.report notice)) (asks : x.Asks allowed) :
    Asks allowed (stage.step name outcome x) := by
  refine ⟨notices _, fun _ => ?_⟩
  apply Program.Only.bind asks
  exact fun _ => ⟨notices _, fun _ => trivial⟩

theorem optional {x : Engine Unit} (skip : Bool) (asks : x.Asks allowed) :
    Asks allowed (unless skip do x) := by
  cases skip with
  | false => exact asks
  | true => trivial

theorem forEach {items : List α} {action : α → Engine Unit}
    (each : ∀ item, (action item).Asks allowed) : (forEach items action).Asks allowed := by
  induction items with
  | nil => exact pure ()
  | cons item rest ih => exact bind (each item) fun _ => ih

end Asks

end Engine

/-- That a value in hand is returned too makes no difference. -/
theorem Stateful.runOn_only {σ : Type} {allowed : Request → Prop} {x : Stateful σ α} {value : σ}
    (asks : (x.toEngine value).Asks allowed) : (x.runOn value).Only allowed := by
  have only (p : Program Effects (Except Failure α × σ))
      (mapped : (p >>= fun r => Pure.pure (r.1.map fun a => (a, r.2))).Only allowed) :
      p.Only allowed := by
    induction p with
    | done => trivial
    | ask r next ih => exact ⟨mapped.1, fun reply => ih reply (mapped.2 reply)⟩
  exact only _ asks

open Engine

namespace Repository

variable {ρ : Type}

theorem look_asks : look.Asks Request.IsRecord := ⟨trivial, fun _ => trivial⟩

theorem read_asks (f : Document → α) : Asks Request.IsRecord (do return f (← look)) :=
  .bind look_asks fun _ => .pure _

theorem change_asks {edit : Document → Engine (α × Document)}
    (edits : ∀ doc, (edit doc).Asks Request.IsRecord) : (change edit).Asks Request.IsRecord := by
  apply Asks.bind look_asks
  intro doc
  apply Asks.bind (edits doc)
  intro result
  have saves : (Engine.save result.2).Asks Request.IsRecord := ⟨trivial, fun _ => trivial⟩
  exact .bind saves.within fun _ => .pure _

theorem update_asks (edit : Document → Document) : (update edit).Asks Request.IsRecord :=
  change_asks fun _ => .pure _

theorem tryUpdate_asks (edit : Document → Except StateFault Document) :
    (tryUpdate edit).Asks Request.IsRecord :=
  change_asks fun _ => .bind (.consistent _) fun _ => .pure _

theorem freshId_asks : Engine.freshId.Asks Request.IsRecord := ⟨trivial, fun _ => trivial⟩

theorem recordFresh_asks (make : String → ρ) (add : String → Document → Document) :
    Asks Request.IsRecord (change fun doc => do
      let id ← Engine.freshId
      return (make id, add id doc)) :=
  change_asks fun _ => .bind freshId_asks fun _ => .pure _

end Repository

open Repository

namespace Disks

theorem save_asks (cid : String) (size : UInt64) (properties : Properties) :
    (save cid size properties).Asks Request.IsRecord :=
  recordFresh_asks (fun id => (⟨id, cid, size, properties⟩ : DiskRecord))
    fun id doc => doc.addDisk ⟨id, cid, size, properties⟩

theorem findUnused_asks : findUnused.Asks Request.IsRecord := by
  apply Asks.bind (Asks.within (read_asks _))
  intro _
  exact .bind (Asks.within (read_asks _)) fun _ => .pure _

end Disks

theorem PersistentDisk.makeCurrent_asks (disk : DiskRecord) :
    (makeCurrent disk).Asks Request.IsRecord := by
  apply Asks.bind (Asks.within (read_asks _))
  intro found
  cases found with
  | none => exact .throw _
  | some record => exact (tryUpdate_asks _).within

namespace Stemcells

theorem save_asks (name version cid : String) : (save name version cid).Asks Request.IsRecord := by
  apply change_asks
  intro doc
  split
  · exact .throw _
  · exact .bind freshId_asks fun _ => .pure _

theorem findUnused_asks : findUnused.Asks Request.IsRecord := by
  apply Asks.bind (Asks.within (read_asks _))
  intro _
  exact .bind (Asks.within (read_asks _)) fun _ => .pure _

end Stemcells

theorem StemcellRecord.promote_asks (stemcell : StemcellRecord) :
    stemcell.promote.Asks Request.IsRecord := by
  apply Asks.bind (Asks.within (read_asks _))
  intro found
  cases found with
  | none => exact .throw _
  | some record => exact (tryUpdate_asks _).within

namespace Releases

theorem save_asks (name version : String) : (save name version).Asks Request.IsRecord :=
  recordFresh_asks (fun id => (⟨id, name, version⟩ : ReleaseRecord))
    fun id doc => doc.addRelease ⟨id, name, version⟩

theorem recordEach_asks (releases : List ReleaseRef) :
    (recordEach releases).Asks Request.IsRecord := by
  induction releases with
  | nil => exact .pure []
  | cons release rest ih =>
    have one : (recordOne release).Asks Request.IsRecord := by
      apply Asks.bind (Asks.within (read_asks _))
      intro found
      cases found with
      | some record => exact .pure record
      | none => exact (save_asks _ _).within
    exact .bind one fun _ => .bind ih fun _ => .pure _

theorem record_asks (releases : List ReleaseRef) : (record releases).Asks Request.IsRecord :=
  .bind (recordEach_asks releases) fun _ => .bind (tryUpdate_asks _).within fun _ => .pure _

theorem findUnused_asks : findUnused.Asks Request.IsRecord := by
  apply Asks.bind (Asks.within (read_asks _))
  intro _
  exact .bind (Asks.within (read_asks _)) fun _ => .pure _

end Releases

section Retries

variable {ε : Type} {allowed : Request → Prop} {attempt : Program Effects (Except ε α)}

theorem TimeoutRetry.run_only {retry : TimeoutRetry} {retryable : ε → Bool}
    (only : attempt.Only allowed) (now : allowed .now) (sleep : ∀ ms, allowed (.sleep ms)) :
    (retry.run attempt retryable).Only allowed := by
  have attempts (deadline further : Nat) :
      (attempts retry.delay deadline attempt retryable further).Only allowed := by
    induction further with
    | zero => exact only
    | succ further ih =>
      apply only.bind
      intro result
      match result with
      | .ok _ => trivial
      | .error _ =>
        dsimp only
        split
        · refine ⟨now, fun (time : Nat) => ?_⟩
          change Program.Only (S := Effects) allowed
            (if time + retry.delay < deadline then _ else _)
          split
          · exact ⟨sleep _, fun _ => ih⟩
          · trivial
        · trivial
  exact ⟨now, fun _ => attempts _ _⟩

theorem AttemptRetry.run_only {retry : AttemptRetry} (only : attempt.Only allowed)
    (sleep : ∀ ms, allowed (.sleep ms)) : (retry.run attempt).Only allowed := by
  have attempts (further : Nat) : (attempts retry.delay attempt further).Only allowed := by
    induction further with
    | zero => exact only
    | succ further ih =>
      apply only.bind
      intro result
      match result with
      | .ok _ => trivial
      | .error _ => exact ⟨sleep _, fun _ => ih⟩
  exact attempts _

end Retries

namespace Agent

theorem awaitReady_asks (timeout delay : Nat) : (awaitReady timeout delay).Asks Request.IsTalk := by
  have ping : (Engine.agent .ping).Asks Request.IsTalk := .agent trivial
  apply Program.Only.bind (TimeoutRetry.run_only ping trivial fun _ => trivial)
  intro result
  match result with
  | .ok _ => trivial
  | .error _ => trivial

theorem awaitRunning_asks (maxAttempts delay : Nat) :
    (awaitRunning maxAttempts delay).Asks Request.IsTalk := by
  have look : checkRunning.Asks Request.IsTalk := by
    refine .bind (Asks.within (.agent trivial)) fun state => ?_
    split
    · exact .pure ()
    · exact .throw _
  exact AttemptRetry.run_only look fun _ => trivial

theorem runScript_asks (script : String) (options : Properties) :
    (runScript script options).Asks Request.IsTalk := .within (.agent trivial)

theorem apply_asks (spec : Json) : (apply spec).Asks Request.IsTalk := .within (.agent trivial)

theorem stop_asks : stop.Asks Request.IsTalk := .within (.agent trivial)

theorem start_asks : start.Asks Request.IsTalk := .within (.agent trivial)

theorem drain_asks : drain.Asks Request.IsTalk := .within (.agent trivial)

end Agent

namespace Tunnel

theorem judge_only (error : SshError) (tunnel : Tunnel) :
    ((judge error).run tunnel).Only Request.IsTalk := ⟨trivial, fun _ => trivial⟩

theorem connect_only (further : Nat) (tunnel : Tunnel) :
    ((connect further).run tunnel).Only Request.IsTalk := by
  induction further generalizing tunnel with
  | zero =>
    refine ⟨trivial, fun (reply : Except SshError Session) => ?_⟩
    cases reply with
    | ok => trivial
    | error error => exact ⟨trivial, fun _ => trivial⟩
  | succ further ih =>
    refine ⟨trivial, fun (reply : Except SshError Session) => ?_⟩
    cases reply with
    | ok => trivial
    | error error =>
      apply (judge_only error tunnel).bind
      rintro ⟨again, judged⟩
      cases again with
      | true => exact ⟨trivial, fun _ => ih judged⟩
      | false => trivial

theorem start_asks (tunnel : Tunnel) : (start.toEngine tunnel).Asks Request.IsTalk := by
  simp only [start, Stateful.toEngine_bind, Stateful.toEngine_get, pure_bind]
  split
  · exact .throw _
  · simp only [Stateful.toEngine_bind, Stateful.toEngine_state]
    apply Asks.bindLift (connect_only _ tunnel)
    intro r
    split
    · exact .throw _
    · exact ⟨trivial, fun _ => trivial⟩

theorem stop_asks (tunnel : Tunnel) : (stop.toEngine tunnel).Asks Request.IsTalk := by
  simp only [stop, Stateful.toEngine_bind, Stateful.toEngine_get, pure_bind]
  split
  · exact .pure _
  · simp only [Stateful.toEngine_bind, Stateful.toEngine_modify, Stateful.toEngine_program,
      pure_bind, bind_assoc]
    refine ⟨trivial, fun (reply : Except ForwardFault Unit) => ?_⟩
    match reply with
    | .ok () => trivial
    | .error (.failed _) => trivial
    | .error .crashed => trivial

end Tunnel

end Reconciler
