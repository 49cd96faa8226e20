import Reconciler.Proofs.Courses

/-!
The courses of an instance: deleting it, stopping it, starting it and updating its jobs. Whatever
fails, each operation follows its course from the front and stops behind what failed, and the phase
of the instance tells how far it came.
-/
namespace Reconciler

namespace Instance

/-- How the teardown of an instance finds its machine. -/
inductive Found
  | gone
  | unreachable
  /-- The agent answers, and these disks are mounted. -/
  | reached (disks : List String)

section Moves

variable (i : Instance) (timeout delay : Nat) (skipDrain : Bool)

/-- The machine is deleted, or is gone already. -/
def IsGone : Except CloudError Unit → Prop
  | .ok () => True
  | .error error => error.kind = .vmNotFound

/-- The machine is deleted and forgotten, and that its stemcell is in use. -/
def forgetting (cid : String) : List Move :=
  [.call (.cloud (.deleteVm cid)) IsGone, .record (Document.setCurrentVm ""),
    .record Document.clearCurrentStemcell]

def removing : List Move := forgetting i.vm.cid ++ [.enter .deleted]

def halting : List Move :=
  .agent (.runScript "pre-stop" []) () :: (if skipDrain then [] else [.agent .drain ()]) ++
    [.agent .stop (), .enter .stopped, .agent (.runScript "post-stop" []) ()]

def unmounting (disks : List String) : List Move :=
  .agent .listDisk disks :: disks.map fun cid => .agent (.unmountDisk cid) ()

def deletion : Found → List Move
  | .gone => .call (.cloud (.hasVm i.vm.cid)) (· = .ok false) :: i.removing
  | .unreachable =>
    .call (.cloud (.hasVm i.vm.cid)) (· = .ok true) :: .wait timeout delay false :: i.removing
  | .reached disks =>
    .call (.cloud (.hasVm i.vm.cid)) (· = .ok true) :: .wait timeout delay true ::
      (halting skipDrain ++ unmounting disks ++ i.removing)

/-- The agent is waited for, and only when it answers there is more. -/
def attending (moves : List Move) (answered : Bool) : List Move :=
  .wait timeout delay answered :: if answered then moves else []

def stopping : Bool → List Move := attending timeout delay (halting skipDrain)

/-- The jobs are given the time until the watch begins, and are then looked at. -/
def watching (watch : WatchTime) : List Move :=
  let delay := i.settings.runningPollDelay
  [.pause watch.start.toNat,
    .look (watchAttempts watch.start.toNat watch.finish.toNat delay) delay]

/-- The jobs are started and come to run. -/
def launching (watch : WatchTime) : List Move :=
  [.agent (.runScript "pre-start" []) (), .agent .start ()] ++ i.watching watch ++
    [.agent (.runScript "post-start" []) (), .enter .running]

def starting (update : Update) : Bool → List Move :=
  attending timeout delay (i.launching update.watchTime)

def updating (manifest : Manifest) (initial : Json) (resolved : AgentState) (spec : Json) :
    List Move :=
  [.render (.initial i.jobName i.index manifest) initial, .agent (.apply initial) (),
    .agent .getState resolved, .render (.final i.jobName i.index manifest resolved) spec,
    .agent .stop (), .agent (.apply spec) ()] ++ i.launching manifest.update.watchTime

end Moves

section Steps

variable (i : Instance) (stage : Stage)

theorem takes_script (script : String) :
    Engine.Takes (i.runScriptInStep stage script) [.agent (.runScript script []) ()] :=
  (Engine.learns_agent (.runScript script [])).takes.within.within.runStep

theorem takes_awaitRunningJobs (watch : WatchTime) :
    Engine.Takes (i.awaitRunningJobs stage watch) (i.watching watch) := by
  apply Engine.Takes.runStep
  exact (Engine.takes_pause _).bind fun () => Engine.takes_awaitRunning _ _

theorem leaves_agentAnswers (timeout delay : Nat) :
    Leaves ((agentAnswers timeout delay stage).runOn i) fun r calls =>
      ∃ answered, r = (.ok answered, i) ∧ (Move.wait timeout delay answered).Passes calls := by
  have waits : Leaves (i.awaitAgent stage timeout delay).run fun result calls =>
      (Move.wait timeout delay result.isOk).Passes calls := by
    apply Engine.leaves_step fun ok calls => (Move.wait timeout delay ok).Passes calls
    apply Engine.leaves_within fun ok calls => (Move.wait timeout delay ok).Passes calls
    exact Engine.leaves_awaitReady timeout delay
  let wait : Stateful Instance (Except Failure Unit) :=
    liftM (i.awaitAgent stage timeout delay).run
  change Leaves ((wait >>= _).runOn i) _
  refine Stateful.leaves_bind (Stateful.leaves_program waits) ?_ ?_
  · rintro result j calls ⟨_, ⟨⟩, waited⟩
    rw [← List.append_nil calls] at waited
    cases result with
    | ok => exact Leaves.done ⟨true, rfl, waited⟩
    | error => exact Leaves.done ⟨false, rfl, waited⟩
  · rintro e j calls ⟨_, ⟨⟩, _⟩

theorem leaves_unmountDisks : Leaves (i.unmountDisks stage).run fun result calls =>
    ∃ disks, ∀ phase, Course (unmounting disks) phase calls result.isOk phase := by
  refine Leaves.bind (Engine.learns_agent .listDisk).within.within fun result calls listed => ?_
  cases result with
  | error =>
    rw [← List.append_nil calls] at listed
    exact Leaves.done ⟨[], listed []⟩
  | ok disks =>
    refine (Engine.Takes.forEach fun cid => ?_).weaken fun result later followed =>
      ⟨disks, fun phase => (listed phase).append (followed phase)⟩
    exact (Engine.learns_agent (.unmountDisk cid)).takes.within.runStep

/-- How the deletion of a machine shows that the machine is away. -/
def isRemoved : Except Failure Unit → Bool
  | .ok () => true
  | .error failure => failure.cloudKind = some .vmNotFound

theorem isRemoved_eq {result : Except Failure Unit}
    (other : ∀ failure, result = .error failure → failure.cloudKind = none) :
    isRemoved result = result.isOk := by
  cases result with
  | ok => rfl
  | error failure => simp [isRemoved, other failure rfl, Except.isOk, Except.toBool]

theorem records_forget : Engine.Records
    (do
      within "Deleting vm from vm repo" Vms.clearCurrent
      within "Clearing current stemcell from stemcell repo" Stemcells.clearCurrent)
    [.record (Document.setCurrentVm ""), .record Document.clearCurrentStemcell] :=
  (Engine.records_update _).within.seq (Engine.records_update _).within

/-- A machine that the cloud does not know is forgotten too before the deletion fails. -/
theorem leaves_vmDelete (vm : Vm) : Leaves vm.delete.run fun result calls => ∀ phase,
    Course (forgetting vm.cid) phase calls (isRemoved result) phase := by
  refine Leaves.ask rfl fun (reply : Except CloudError Unit) _ => ?_
  have deletes (good : IsGone reply) :
      Move.Passes (.call (.cloud (.deleteVm vm.cid)) IsGone)
        [⟨.cloud (.deleteVm vm.cid), reply⟩] := ⟨reply, good, rfl⟩
  cases reply with
  | ok =>
    refine Leaves.weaken records_forget fun result calls followed phase => ?_
    rw [isRemoved_eq followed.2]
    exact .passes (deletes trivial) (followed.1 phase)
  | error error =>
    change Leaves (if error.kind = .vmNotFound then _ else _ : Engine Unit).run _
    split
    case isTrue gone =>
      refine Leaves.bind records_forget fun result calls followed => ?_
      rw [← List.append_nil calls] at followed
      cases result with
      | ok =>
        have removed : isRemoved (.error (.cloud error)) = true :=
          decide_eq_true (congrArg some gone)
        refine Leaves.done fun phase => ?_
        rw [removed]
        exact .passes (deletes gone) (followed.1 phase)
      | error failure =>
        refine Leaves.done fun phase => ?_
        rw [isRemoved_eq followed.2]
        exact .passes (deletes gone) (followed.1 phase)
    case isFalse there =>
      let stopped : Failure := .within "Deleting vm in the cloud" (.cloud error)
      have kept : isRemoved (.error stopped) = false :=
        decide_eq_false fun gone => there (Option.some.inj gone)
      refine Leaves.done fun phase => ?_
      rw [kept]
      have failed : Request.Failed (.cloud (.deleteVm vm.cid)) (.error error) := trivial
      exact (Course.refused failed there phase).stops

theorem takes_vmDelete (vm : Vm) (name : String) (reason : Failure → String) :
    Engine.Takes (Engine.performStep stage name (skipIfGone .vmNotFound reason vm.delete))
      (forgetting vm.cid) := by
  apply Engine.Takes.step
  refine Leaves.bind (leaves_vmDelete vm) fun result calls followed => ?_
  rw [← List.append_nil calls] at followed
  cases result with
  | ok => exact Leaves.done followed
  | error failure =>
    change Leaves (if failure.cloudKind = some .vmNotFound then _ else _) _
    split
    case isTrue gone =>
      have removed : isRemoved (.error failure) = true := decide_eq_true gone
      rw [removed] at followed
      exact Leaves.done followed
    case isFalse there =>
      have kept : isRemoved (.error failure) = false := decide_eq_false there
      rw [kept] at followed
      exact Leaves.done followed

theorem takes_answers {ι : Type} [Nonempty ι] {body : Stateful Instance Unit}
    {timeout delay : Nat} (moves : ι → List Move) (later : body.Takes i moves) :
    (do if ← agentAnswers timeout delay stage then body : Stateful Instance Unit).Takes i
      fun k : Bool × ι => attending timeout delay (moves k.2) k.1 := by
  refine Stateful.leaves_bind (leaves_agentAnswers i stage timeout delay) ?_ ?_
  · rintro answered _ calls ⟨_, ⟨⟩, waited⟩
    cases answered with
    | true =>
      refine Leaves.weaken later ?_
      rintro r later ⟨k, followed, same⟩
      exact ⟨(true, k), .passes waited followed, same⟩
    | false =>
      obtain ⟨k⟩ := ‹Nonempty ι›
      exact Leaves.done ⟨(false, k), .passes waited (.done _), rfl⟩
  · rintro e j calls ⟨_, ⟨⟩, _⟩

theorem takes_shutDown (timeout delay : Nat) (skipDrain skipUnmount : Bool) :
    (shutDown timeout delay skipDrain skipUnmount stage).Takes i fun k : Bool × List String =>
      attending timeout delay (halting skipDrain ++ if skipUnmount then [] else unmounting k.2)
        k.1 := by
  refine takes_answers i stage
    (fun disks => halting skipDrain ++ if skipUnmount then [] else unmounting disks) ?_
  apply Stateful.Takes.get
  have unmounts (j : Instance) : Stateful.Takes
      (if skipUnmount then pure () else liftM (i.unmountDisks stage)) j
      fun disks => if skipUnmount then [] else unmounting disks := by
    cases skipUnmount with
    | true => exact Leaves.done ⟨[], .done _, rfl⟩
    | false => exact .ofEngine (leaves_unmountDisks i stage)
  simp only [halting, List.cons_append, List.append_assoc, List.nil_append]
  refine .engine (takes_script i stage "pre-stop") fun () => ?_
  refine Stateful.Takes.unless skipDrain (Engine.learns_agent .drain).takes.within.runStep ?_
  refine .engine (Engine.learns_agent .stop).takes.within.runStep fun () => ?_
  exact .enter (.engine (takes_script i stage "post-stop") fun () => unmounts _)

theorem takes_stop (timeout delay : Nat) (skipDrain : Bool) :
    (stop timeout delay skipDrain stage).Takes i (stopping timeout delay skipDrain) := by
  apply (takes_shutDown i stage timeout delay skipDrain true).reindex
  rintro ⟨answered, disks⟩
  exact ⟨answered, by simp [stopping]⟩

theorem takes_delete (timeout delay : Nat) (skipDrain : Bool) :
    (delete timeout delay skipDrain stage).Takes i (i.deletion timeout delay skipDrain) := by
  have removes (j : Instance) : Stateful.Takes (do
      discard <| Engine.performStep stage s!"Deleting VM '{i.vm.cid}'"
        (skipIfGone .vmNotFound (fun _ => "VM not found") i.vm.delete)
      enter .deleted) j fun _ : Unit => i.removing := by
    simp only [Functor.discard, map_const, Function.comp_apply, bind_map_left]
    exact .engine (takes_vmDelete stage i.vm _ _) fun _ => .entered _
  let teardown (present : Bool) (k : (Bool × List String) × Unit) : List Move :=
    (if present then attending timeout delay (halting skipDrain ++ unmounting k.1.2) k.1.1
      else []) ++ i.removing
  refine .get (Stateful.Takes.reindex (Stateful.Takes.learns teardown
    (Engine.learns_cloud (.hasVm i.vm.cid)).within.within fun present => ?_) ?_)
  · cases present with
    | false =>
      apply Stateful.Takes.reindex (removes i)
      exact fun _ => ⟨((false, []), ()), rfl⟩
    | true => exact (takes_shutDown i stage timeout delay skipDrain false).seq fun _ _ => removes _
  · rintro ⟨present, ⟨answered, disks⟩, -⟩
    cases present with
    | false => exact ⟨.gone, rfl⟩
    | true =>
      cases answered with
      | false => exact ⟨.unreachable, rfl⟩
      | true => exact ⟨.reached disks, rfl⟩

theorem takes_start (update : Update) (timeout delay : Nat) :
    (start update timeout delay stage).Takes i (i.starting timeout delay update) := by
  refine Stateful.Takes.reindex
    (takes_answers i stage (fun _ : Unit => i.launching update.watchTime) ?_) ?_
  · simp only [launching, List.cons_append, List.nil_append]
    refine .get (.engine (takes_script i stage "pre-start") fun () => ?_)
    refine .engine (Engine.learns_agent .start).takes.within.within.runStep fun () => ?_
    refine .engine (takes_awaitRunningJobs i stage update.watchTime) fun () => ?_
    exact .engine (takes_script i stage "post-start") fun () => .entered _
  · rintro ⟨answered, -⟩
    exact ⟨answered, rfl⟩

/-- The final spec is handed over and the jobs are started, in one step. -/
theorem takes_handOver (spec : Json) (name : String) : Engine.Takes
    (Engine.runStep stage name do
      within "Stopping the agent" Agent.stop
      within "Applying the agent state" (Agent.apply spec)
      within "Running the pre-start script" (Agent.runScript "pre-start" [])
      within "Starting the agent" Agent.start)
    [.agent .stop (), .agent (.apply spec) (), .agent (.runScript "pre-start" []) (),
      .agent .start ()] := by
  apply Engine.Takes.runStep
  refine .bind (Engine.learns_agent .stop).takes.within.within fun () => ?_
  refine .bind (Engine.learns_agent (.apply spec)).takes.within.within fun () => ?_
  refine .bind (Engine.learns_agent (.runScript "pre-start" [])).takes.within.within fun () => ?_
  exact (Engine.learns_agent .start).takes.within.within

theorem takes_updateJobs (manifest : Manifest) : (updateJobs manifest stage).Takes i
    fun k : Json × AgentState × Json => i.updating manifest k.1 k.2.1 k.2.2 := by
  have : Nonempty AgentState := ⟨⟨"", []⟩⟩
  let handOver (spec : Json) (_ : Unit) : List Move :=
    .agent .stop () :: .agent (.apply spec) () :: i.launching manifest.update.watchTime
  let resolve (resolved : AgentState) (k : Json × Unit) : List Move :=
    .render (.final i.jobName i.index manifest resolved) k.1 :: handOver k.1 k.2
  let apply (initial : Json) (k : AgentState × Json × Unit) : List Move :=
    .agent (.apply initial) () :: .agent .getState k.1 :: resolve k.1 k.2
  refine .get (Stateful.Takes.reindex (.learns apply (Engine.learns_render _).within
    fun initial => ?_) ?_)
  · refine .engine (Engine.learns_agent (.apply initial)).takes.within.within fun () => ?_
    refine .learns resolve (Engine.learns_agent .getState).within.within fun resolved => ?_
    refine .learns handOver (Engine.learns_render _).within fun spec => ?_
    refine .engine (takes_handOver stage spec _) fun () => ?_
    refine .engine (takes_awaitRunningJobs i stage manifest.update.watchTime) fun () => ?_
    exact .engine (takes_script i stage "post-start") fun () => .entered _
  · rintro ⟨initial, resolved, spec, -⟩
    exact ⟨(initial, resolved, spec), rfl⟩

/-- Deleting, stopping, starting and updating an instance follow their courses, whatever its
surroundings answer, and change nothing of it but its phase. -/
theorem operations_follow_courses (update : Update) (manifest : Manifest) (timeout delay : Nat)
    (skipDrain : Bool) :
    (delete timeout delay skipDrain stage).Takes i (i.deletion timeout delay skipDrain) ∧
      (stop timeout delay skipDrain stage).Takes i (stopping timeout delay skipDrain) ∧
      (start update timeout delay stage).Takes i (i.starting timeout delay update) ∧
      (updateJobs manifest stage).Takes i
        fun k : Json × AgentState × Json => i.updating manifest k.1 k.2.1 k.2.2 :=
  ⟨takes_delete i stage timeout delay skipDrain, takes_stop i stage timeout delay skipDrain,
    takes_start i stage update timeout delay, takes_updateJobs i stage manifest⟩

end Steps

end Instance

end Reconciler
