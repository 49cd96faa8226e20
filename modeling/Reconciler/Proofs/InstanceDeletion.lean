import Reconciler.Proofs.Directors
import Reconciler.Proofs.Lifecycle
import Reconciler.Proofs.Requests

/-!
Deleting an instance, with a store that can be relied on and nothing else. The document is touched
only after the cloud has let go of the machine, so that a deletion that fails has not changed it. A
deletion that returned can be repeated: the second one finds nothing to talk to and nothing to
change.
-/
namespace Reconciler

open Engine Repository

/-- Nothing can be relied on but the store. -/
def Conduct.storeOnly : Conduct := { Conduct.reliableStore with honest := False }

/-- The cloud does not know the machine, whatever it is asked about it. -/
def Exchange.Disowns (cid : String) : Exchange → Prop
  | ⟨.cloud (.hasVm asked), reply⟩ => asked = cid → reply = .ok false
  | ⟨.cloud (.deleteVm asked), reply⟩ =>
    asked = cid → ∃ error, reply = .error error ∧ error.kind = .vmNotFound
  | _ => True

/-- As surroundings answer whose cloud does not know a machine. -/
def Conduct.AnswersDisowning (c : Conduct) (mints : Prop) (cid : String) :
    Behaviour Effects Surroundings :=
  fun s r reply t => c.AnswersMinting mints s r reply t ∧ Exchange.Disowns cid ⟨r, reply⟩

/-- No machine and no stemcell is in use any more, and nothing else of the document has changed but
that it has its director now if it had none. -/
structure Surroundings.Vacated (mints : Prop) (s t : Surroundings) : Prop where
  doc : t.doc = { s.doc with
    directorId := t.doc.directorId, currentVmCid := "", currentStemcellId := "" }
  director : s.KeepsDirector mints t
  directed : t.Directed mints

theorem Surroundings.Vacated.congr {mints : Prop} {s t u : Surroundings}
    (vacated : t.Vacated mints u) (same : t.doc = s.doc) : s.Vacated mints u := by
  refine ⟨?_, fun directed => ?_, vacated.directed⟩
  · rw [← same]
    exact vacated.doc
  · rw [← same]
    exact vacated.director fun minting => same ▸ directed minting

/-- Where no machine and no stemcell was in use, nothing has changed. -/
theorem Surroundings.Vacated.eq {mints : Prop} {s t u : Surroundings} (first : s.Vacated mints t)
    (second : t.Vacated mints u) : u.doc = t.doc := by
  rw [second.doc, second.director first.directed, first.doc]

variable {α β : Type} {mints : Prop} {answers : Behaviour Effects Surroundings} {s t : Surroundings}

/-- What is not asked of the store does not change the document. -/
theorem Surroundings.Step.doc_eq {r : Request} (step : s.Step r t) (other : ¬r.IsRecord) :
    t.doc = s.doc := by
  cases step with
  | loaded | saved => exact absurd trivial other
  | _ => rfl

/-- A store fails with errors of its own. -/
theorem Conduct.Answers.isPlausible {c : Conduct} {r : Request} {reply : r.Reply}
    (answered : c.Answers s r reply t) : r.Plausible reply := by
  match r, reply with
  | .load, .error _ | .save _, .error _ =>
    obtain ⟨-, ⟨fault, rfl⟩, -⟩ := answered
    exact rfl
  | .load, .ok _ | .save _, .ok _ => trivial
  | .cloud _, _ | .agent _, _ | .render _, _ | .connect _, _ | .forward .., _ | .close _, _
  | .report _, _ | .now, _ | .sleep _, _ | .freshId, _ => trivial

section Stored

/-- Every run returns, as wanted. -/
def Succeeds (answers : Behaviour Effects Surroundings) (s : Surroundings) (x : Engine α)
    (post : α → Surroundings → Prop) : Prop :=
  x.run.Meets answers (fun _ _ _ _ => True) (fun result t => ∃ a, result = .ok a ∧ post a t) s

theorem Succeeds.bind {x : Engine α} {f : α → Engine β} {Q : α → Surroundings → Prop}
    {post : β → Surroundings → Prop} (first : Succeeds answers s x Q)
    (second : ∀ a t, Q a t → Succeeds answers t (f a) post) :
    Succeeds answers s (x >>= f) post := by
  apply Program.Meets.bind first
  rintro _ t ⟨a, rfl, reached⟩
  exact second a t reached

theorem Succeeds.within {x : Engine α} {post : α → Surroundings → Prop} {context : String}
    (valid : Succeeds answers s x post) :
    Succeeds answers s (Reconciler.within context x) post := by
  apply Program.Meets.bind valid
  rintro _ t ⟨a, rfl, reached⟩
  exact ⟨a, rfl, reached⟩

variable (stored : ∀ s r reply t, answers s r reply t →
  Conduct.storeOnly.AnswersMinting mints s r reply t)

include stored in
/-- The change is made to the document as it was, with its director. -/
theorem update_succeeds (edit : Document → Document) :
    Succeeds answers s (update edit) fun _ t => ∃ id,
      (s.Directed mints → id = s.doc.directorId) ∧ (mints → id ≠ "") ∧
        t.doc = edit { s.doc with directorId := id } ∧
        t.calls = s.calls ++ [⟨.save t.doc, .ok ()⟩] := by
  intro reply t answered
  refine ⟨trivial, ?_⟩
  have loaded := stored _ _ _ _ answered
  have kept : s.KeepsDirector mints t := .step loaded trivial
  match reply with
  | .error failure => exact loaded.1.1.elim
  | .ok doc =>
    obtain ⟨⟨id, -, rfl, rfl⟩, minted, -⟩ := loaded
    intro reply u answered
    refine ⟨trivial, ?_⟩
    have saved := stored _ _ _ _ answered
    match reply with
    | .error failure => exact saved.1.1.elim
    | .ok () =>
      obtain rfl := saved.1
      exact ⟨(), rfl, id, kept, minted, rfl, rfl⟩

include stored in
theorem forget_succeeds : Succeeds answers s (do
      within "Deleting vm from vm repo" Vms.clearCurrent
      within "Clearing current stemcell from stemcell repo" Stemcells.clearCurrent)
    fun _ t => s.Vacated mints t ∧
      ∃ doc, t.calls = s.calls ++ [⟨.save doc, .ok ()⟩, ⟨.save t.doc, .ok ()⟩] := by
  apply Succeeds.bind (Succeeds.within (update_succeeds stored _))
  rintro _ t ⟨id, kept, -, doc₁, calls₁⟩
  apply Program.Meets.weaken (Succeeds.within (update_succeeds stored _))
  rintro _ u ⟨a, rfl, id', kept', minted, doc₂, calls₂⟩
  refine ⟨a, rfl, ⟨?_, fun directed => ?_, fun minting => ?_⟩, t.doc, ?_⟩
  · rw [doc₂, doc₁]
    rfl
  · have first : t.doc.directorId = s.doc.directorId := by
      rw [doc₁]
      exact kept directed
    have second := kept' fun minting => first ▸ directed minting
    rw [doc₂]
    exact second.trans first
  · rw [doc₂]
    exact minted minting
  · rw [calls₂, calls₁, List.append_assoc]
    rfl

/-- What has become of the document when a deletion of a machine has ended. -/
def Settles (mints : Prop) (s : Surroundings) (result : Except Failure α) (t : Surroundings) :
    Prop :=
  match result with
  | .ok _ => s.Vacated mints t
  | .error failure =>
    if failure.cloudKind = some .vmNotFound then s.Vacated mints t else t.doc = s.doc

include stored in
/-- The machine is forgotten when it is deleted or gone, and otherwise nothing is. -/
theorem Vm.delete_settles (vm : Vm) :
    vm.delete.run.Meets answers (fun _ _ _ _ => True) (Settles mints s) s := by
  intro reply t answered
  have same : t.doc = s.doc := (stored _ _ _ _ answered).1.step.doc_eq id
  refine ⟨trivial, ?_⟩
  match reply with
  | .ok () =>
    apply Program.Meets.weaken (forget_succeeds stored)
    rintro _ u ⟨a, rfl, vacated, -⟩
    exact vacated.congr same
  | .error error =>
    change Program.Meets _ _ _ (if error.kind = .vmNotFound then _ else _ : Engine Unit).run t
    split
    case isTrue gone =>
      apply Program.Meets.bind (forget_succeeds stored)
      rintro _ u ⟨a, rfl, vacated, -⟩
      change if some error.kind = some .vmNotFound then _ else _
      rw [if_pos (congrArg some gone)]
      exact vacated.congr same
    case isFalse there =>
      change if some error.kind = some .vmNotFound then _ else _
      rw [if_neg fun gone => there (Option.some.inj gone)]
      exact same

include stored in
theorem Vm.deleteInStep_stored (vm : Vm) (name : String) (stage : Stage)
    (reason : Failure → String) :
    (Engine.performStep stage name (skipIfGone .vmNotFound reason vm.delete)).run.Meets answers
      (fun _ _ _ _ => True) (fun result t => match result with
        | .ok _ => s.Vacated mints t
        | .error _ => t.doc = s.doc) s := by
  have told {u v : Surroundings} {notice : Notice} {reply : Unit}
      (answered : answers u (.report notice) reply v) : v = u := (stored _ _ _ _ answered).1
  intro _ t opened
  obtain rfl := told opened
  refine ⟨trivial, ?_⟩
  change Program.Meets _ _ _ ((vm.delete.run >>= _) >>= _) t
  refine Program.Meets.bind (Q := fun result u => match result with
    | .ok _ => t.Vacated mints u
    | .error _ => u.doc = t.doc) (Program.Meets.bind (vm.delete_settles stored) ?_) ?_
  · rintro (failure | ⟨⟩) u settled
    · change Program.Meets _ _ _ (if failure.cloudKind = some .vmNotFound then _ else _) u
      change if failure.cloudKind = some .vmNotFound then _ else _ at settled
      split at settled
      case isTrue gone =>
        rw [if_pos gone]
        exact settled
      case isFalse there =>
        rw [if_neg there]
        exact settled
    · exact settled
  · rintro result u ended _ _ closed
    obtain rfl := told closed
    exact ⟨trivial, ended⟩

include stored in
/-- What asks nothing of the store leaves the document as it is. -/
theorem Engine.Asks.keepsDocument {x : Engine α} (asks : x.Asks fun r => ¬r.IsRecord) :
    x.run.Meets answers (fun _ _ _ _ => True) (fun _ t => t.doc = s.doc) s := by
  have step (s : Surroundings) (r : Request) (reply : r.Reply) (t : Surroundings)
      (other : ¬r.IsRecord) (answered : answers s r reply t) : t.doc = s.doc :=
    (stored s r reply t answered).1.step.doc_eq other
  exact Program.Only.tracks (R := fun s t : Surroundings => t.doc = s.doc) asks (fun _ => rfl)
    (fun _ _ _ first second => second.trans first) step s

end Stored

/-- A machine is recorded, and that it was made from a stemcell. -/
def Surroundings.inUse : Surroundings :=
  { Surroundings.empty with
    doc :=
      { Document.fresh "director" with currentVmCid := "vm", currentStemcellId := "stemcell" } }

namespace Instance

variable (i : Instance) (stage : Stage) (timeout delay : Nat) (skipDrain : Bool)

/-- Only the agent is talked to, in steps that are told. -/
theorem shutDown_asks {allowed : Request → Prop} (skipUnmount : Bool)
    (notices : ∀ notice, allowed (.report notice)) (talk : ∀ r, r.IsTalk → allowed r) :
    ((shutDown timeout delay skipDrain skipUnmount stage).toEngine i).Asks allowed := by
  have talks {x : Engine Unit} {name : String} (asks : x.Asks Request.IsTalk) :
      (Engine.runStep stage name x).Asks allowed := .step notices (asks.weaken talk)
  rw [shutDown_toEngine]
  apply Asks.bindLift (talks (Agent.awaitReady_asks timeout delay).within)
  intro result
  match result with
  | .error _ => exact .pure _
  | .ok () =>
    apply Asks.bind (talks (Agent.runScript_asks _ _).within)
    intro _
    apply Asks.bind (.optional skipDrain (talks Agent.drain_asks))
    intro _
    apply Asks.bind (talks Agent.stop_asks)
    intro _
    apply Asks.bind (talks (Agent.runScript_asks _ _).within)
    intro _
    refine .bind (.optional skipUnmount ?_) fun _ => .pure _
    refine .bind (.within (.within (.agent (talk _ trivial)))) fun disks => ?_
    exact .forEach fun cid => talks (.within (.agent trivial))

/-- What a deletion that failed has not done to the document, and one that returned has. -/
theorem delete_settles
    (stored : ∀ s r reply t, answers s r reply t →
      Conduct.storeOnly.AnswersMinting mints s r reply t) :
    ((delete timeout delay skipDrain stage).toEngine i).run.Meets answers (fun _ _ _ _ => True)
      (fun result t => match result with
        | .ok _ => s.Vacated mints t
        | .error _ => t.doc = s.doc) s := by
  have asked : i.vm.isPresent.Asks fun r => ¬r.IsRecord := .within (.cloud id)
  have stopped (present : Bool) : Asks (fun r => ¬r.IsRecord) (if present then
      (shutDown timeout delay skipDrain false stage).toEngine i else pure ((), i)) := by
    cases present with
    | false => exact .pure _
    | true =>
      exact shutDown_asks i stage timeout delay skipDrain false (fun _ => id)
        fun _ => Request.IsTalk.not_record
  rw [delete_toEngine]
  apply Program.Meets.bind (asked.within.keepsDocument stored)
  rintro (failure | present) t same₁
  · exact same₁
  apply Program.Meets.bind ((stopped present).keepsDocument stored)
  rintro (failure | r) u same₂
  · exact same₂.trans same₁
  apply Program.Meets.bind (i.vm.deleteInStep_stored stored _ stage _)
  rintro (failure | outcome) v ended
  · exact Eq.trans ended (same₂.trans same₁)
  · exact ended.congr (same₂.trans same₁)

/-- A machine that the cloud does not know is forgotten, and the deletion tells so. -/
theorem vmDelete_disowned (vm : Vm) : vm.delete.run.Meets
    (Conduct.storeOnly.AnswersDisowning mints vm.cid) (fun _ _ _ _ => True)
    (fun result t => ∃ (error : CloudError) (first last : Document), error.kind = .vmNotFound ∧
      result = .error (.cloud error) ∧ s.Vacated mints t ∧
      t.calls = s.calls ++ [⟨.cloud (.deleteVm vm.cid), .error error⟩, ⟨.save first, .ok ()⟩,
        ⟨.save last, .ok ()⟩]) s := by
  intro reply t answered
  obtain ⟨⟨answered, -⟩, missing⟩ := answered
  obtain ⟨error, rfl, gone⟩ : ∃ error, reply = .error error ∧ error.kind = .vmNotFound :=
    missing rfl
  obtain ⟨-, -, rfl⟩ := answered
  refine ⟨trivial, ?_⟩
  change Program.Meets _ _ _ (if error.kind = .vmNotFound then _ else _ : Engine Unit).run _
  rw [if_pos gone]
  apply Program.Meets.bind (forget_succeeds fun _ _ _ _ => And.left)
  rintro _ u ⟨a, rfl, vacated, first, calls⟩
  refine ⟨error, first, u.doc, gone, rfl, vacated.congr rfl, ?_⟩
  rw [calls]
  simp [Surroundings.noted]

/-- The calls of a deletion whose machine the cloud does not know. -/
def Unknown (cid : String) (calls : List Exchange) : Prop :=
  ∃ (error : CloudError) (first last : Document), error.kind = .vmNotFound ∧
    calls = [⟨.cloud (.hasVm cid), .ok false⟩, ⟨.cloud (.deleteVm cid), .error error⟩,
      ⟨.save first, .ok ()⟩, ⟨.save last, .ok ()⟩]

/-- Nobody is talked to but the cloud, which is asked and told to delete all the same. -/
theorem delete_disowned :
    ((delete timeout delay skipDrain stage).toEngine i).run.Meets
      (Conduct.storeOnly.AnswersDisowning mints i.vm.cid) (fun _ _ _ _ => True)
      (fun result t => (∃ r, result = .ok r) ∧ s.Vacated mints t ∧
        ∃ calls, t.calls = s.calls ++ calls ∧ Unknown i.vm.cid calls) s := by
  rw [delete_toEngine]
  intro reply t asked
  obtain ⟨⟨asked, -⟩, missing⟩ := asked
  obtain rfl : reply = .ok false := missing rfl
  obtain ⟨-, rfl⟩ := asked
  refine ⟨trivial, ?_⟩
  intro _ t opened
  obtain rfl := opened.1.1
  refine ⟨trivial, ?_⟩
  change Program.Meets _ _ _ (((i.vm.delete.run >>= _) >>= _) >>= _) _
  rw [bind_assoc, bind_assoc]
  apply Program.Meets.bind (vmDelete_disowned i.vm)
  rintro _ u ⟨error, first, last, gone, rfl, vacated, calls⟩
  have isGone : (Failure.cloud error).cloudKind = some .vmNotFound := congrArg some gone
  dsimp only
  rw [if_pos isGone]
  intro _ v closed
  obtain rfl := closed.1.1
  refine ⟨trivial, ⟨_, rfl⟩, vacated.congr rfl, _, ?_, error, first, last, gone, rfl⟩
  rw [calls]
  simp [Surroundings.served]

variable {i stage timeout delay skipDrain}

/-- An instance of a job that runs. -/
def deployed : Instance := ⟨"director", 0, ⟨"vm"⟩, .standard, .running⟩

/-- A deletion that fails leaves the document exactly as it was. One that returns has cleared the
pointers to the machine and to its stemcell and nothing else, however the machine was found and
whether or not its agent answered. Deleting once more, when the cloud does not know the machine,
asks about it and deletes it, talks to no agent, returns and leaves the document as it is. -/
theorem delete_allOrNothing {result : Except Failure Unit} {handle : Instance}
    (ran : ((delete timeout delay skipDrain stage).runOn i).Reaches
      (Conduct.storeOnly.AnswersMinting mints) s (.done (result, handle)) t) :
    (∀ failure, result = .error failure → t.doc = s.doc) ∧
      (result = .ok () → s.Vacated mints t ∧
        ∀ (timeout' delay' : Nat) (skipDrain' : Bool) (stage' : Stage) (v : Surroundings),
          v.doc = t.doc →
          ((delete timeout' delay' skipDrain' stage').runOn handle).Meets
            (Conduct.storeOnly.AnswersDisowning mints i.vm.cid) (fun _ _ _ _ => True)
            (fun again u => again.1 = .ok () ∧ u.doc = t.doc ∧
              ∃ calls, u.calls = v.calls ++ calls ∧ Unknown i.vm.cid calls) v) := by
  have stored (s : Surroundings) (r : Request) (reply : r.Reply) (t : Surroundings)
      (answered : Conduct.storeOnly.AnswersMinting mints s r reply t) :
      Conduct.storeOnly.AnswersMinting mints s r reply t := answered
  have settled := (Program.Meets.ofMap (delete_settles i stage timeout delay skipDrain
    (s := s) stored)).ends ran
  have same : handle = { i with phase := handle.phase } :=
    ((takes_delete i stage timeout delay skipDrain).returns
      (Q := fun r => r.2 = { i with phase := r.2.phase }) (fun _ _ followed => ?_)
      (fun _ _ _ _ answered => answered.1.isPlausible) s).ends ran
  · have kept : handle.vm = i.vm := by rw [same]
    refine ⟨?_, ?_⟩
    · rintro failure rfl
      exact settled
    · rintro rfl
      refine ⟨settled, fun timeout' delay' skipDrain' stage' v same => ?_⟩
      rw [← kept]
      refine (Program.Meets.ofMap
        (delete_disowned handle stage' timeout' delay' skipDrain')).weaken ?_
      rintro ⟨again, j⟩ u ⟨⟨r, returned⟩, vacated, calls⟩
      refine ⟨?_, ?_, calls⟩
      · cases again with
        | ok => rfl
        | error => cases returned
      · exact settled.eq (vacated.congr same)
  · obtain ⟨_, -, same⟩ := followed
    exact same

/-- A machine that is there is deleted, though its agent does not answer. -/
theorem delete_allOrNothing_unreachable : ∃ handle t,
    ((delete 0 1 false ⟨"deleting"⟩).runOn .deployed).Reaches
      (Conduct.storeOnly.AnswersMinting True) .inUse (.done (.ok (), handle)) t ∧
    t.doc = .fresh "director" ∧
    ((delete 0 1 false ⟨"deleting"⟩).runOn handle).Meets
      (Conduct.storeOnly.AnswersDisowning True "vm") (fun _ _ _ _ => True)
      (fun again u => again.1 = .ok () ∧ u.doc = .fresh "director") t := by
  let answers := Conduct.storeOnly.AnswersMinting True
  have reported (s : Surroundings) (notice : Notice) : answers s (.report notice) () s :=
    ⟨rfl, trivial⟩
  have loaded (s : Surroundings) (same : s.doc.directorId = "director") :
      answers s .load (.ok (s.loaded "director").doc) (s.loaded "director") :=
    ⟨⟨"director", fun _ => same.symm, rfl, rfl⟩, fun _ => by simp [Surroundings.loaded],
      absurd trivial⟩
  have saved (s : Surroundings) (doc : Document) : answers s (.save doc) (.ok ()) (s.saved doc) :=
    ⟨rfl, trivial⟩
  have served (s : Surroundings) (call : CloudCall) (answer : call.Answer)
      (unused : s.Unused call answer) :
      answers s (.cloud call) (.ok answer) (s.served call answer) := ⟨⟨unused, rfl⟩, trivial⟩
  have timed (s : Surroundings) : answers s .now (0 : Nat) s := ⟨rfl, trivial⟩
  have ignored (s : Surroundings) : answers s (.agent .ping) (.error (.agent "no answer"))
      (s.noted ⟨.agent .ping, .error (.agent "no answer")⟩) := ⟨⟨trivial, rfl⟩, trivial⟩
  have ran : ∃ handle t, ((delete 0 1 false ⟨"deleting"⟩).runOn .deployed).Reaches answers .inUse
      (.done (.ok (), handle)) t ∧ t.doc = .fresh "director" :=
    ⟨_, _, .next (served _ (.hasVm "vm") true nofun) <| .next (reported _ _) <|
      .next (timed _) <| .next (ignored _) <| .next (reported _ _) <| .next (reported _ _) <|
      .next (served _ (.deleteVm "vm") () nofun) <| .next (loaded _ rfl) <| .next (saved _ _) <|
      .next (loaded _ rfl) <| .next (saved _ _) <| .next (reported _ _) <| .here _ _, rfl⟩
  obtain ⟨handle, t, ran, doc⟩ := ran
  have again := ((delete_allOrNothing ran).2 rfl).2 0 1 false ⟨"deleting"⟩ t rfl
  refine ⟨handle, t, ran, doc, again.weaken ?_⟩
  rintro r u ⟨returned, same, -⟩
  exact ⟨returned, same.trans doc⟩

end Instance

end Reconciler
