import Reconciler.Proofs.RepositoryCalls
import Reconciler.Proofs.Stores

/-!
Calls to the repositories are done as a whole or not at all, and touch nothing but their own part of
the document. This holds in any lawful store, so in memory and in a file, whichever step fails.
-/
namespace Reconciler

open Repository

/-- Asks about the workspace and changes nothing. -/
def RepositoryCall.isRead (call : RepositoryCall) : Bool :=
  match call.use with
  | .looks => true
  | _ => false

namespace Keeping

variable {κ σ : Type} {k : Keeping κ} {answers : Behaviour Effects σ} {kept : σ → κ}
  {call : RepositoryCall} {s : σ}

/-- What a call leaves in a store. Where it fails that is what was there, up to a director that a
look has given; a change that succeeds has replaced the document that it was given by one that
agrees with it on all other parts. -/
def Outcome (k : Keeping κ) (call : RepositoryCall) (before : κ) : Except Failure Unit → κ → Prop
  | .error _, after => after = before ∨ ∃ doc, k.Gives before doc after
  | .ok (), after => ∃ doc looked, k.Gives before doc looked ∧
      if call.isRead then after = looked
      else ∃ new, after = k.put new ∧ ∀ p, p ≠ call.part → p.Agree doc new

namespace Lawful

theorem look_meets (lawful : k.Lawful answers kept) (reads : call.isRead = true) :
    (discard look : Engine Unit).run.Meets answers (fun _ _ _ _ => True)
      (fun result t => k.Outcome call (kept s) result (kept t)) s := by
  intro reply t answered
  refine ⟨trivial, ?_⟩
  match reply with
  | .ok doc => exact ⟨doc, _, lawful.given answered, by rw [if_pos reads]⟩
  | .error e => exact .inl (lawful.refused answered)

/-- What follows the edit of a change. -/
def conclude (result : Except Failure (Unit × Document)) :
    Program Effects (Except Failure Unit) :=
  match result with
  | .error e => .done (.error e)
  | .ok ((), new) => .ask (.save new) fun (saved : Except Failure Unit) =>
    .done (saved.mapError (Failure.within "Saving new config"))

theorem run_change (edit : Document → Engine (Unit × Document)) :
    (change edit).run = .ask .load fun (reply : Except Failure Document) =>
      match reply with
      | .error e => .done (.error (.within "Loading existing config" e))
      | .ok doc => (edit doc).run >>= conclude := by
  refine congrArg (Program.ask (S := Effects) .load) (funext fun reply => ?_)
  match reply with
  | .error e => rfl
  | .ok doc =>
    refine congrArg (fun f => Program.bind (edit doc).run f) (funext fun result => ?_)
    match result with
    | .error e => rfl
    | .ok ((), new) =>
      refine congrArg (Program.ask (S := Effects) (.save new)) (funext fun saved => ?_)
      match saved with
      | .error e => rfl
      | .ok () => rfl

/-- A change that either gives up, or makes a document that the call may save. -/
theorem change_meets {edit : Document → Engine (Unit × Document)} (lawful : k.Lawful answers kept)
    (changes : call.isRead = false)
    (edited : ∀ doc m, (edit doc).run.Meets answers (fun _ _ _ _ => True) (fun result t =>
      kept t = kept m ∧ ∀ r, result = .ok r → ∃ drawn, call.Saves doc drawn r.2) m) :
    (change edit).run.Meets answers (fun _ _ _ _ => True)
      (fun result t => k.Outcome call (kept s) result (kept t)) s := by
  rw [run_change]
  intro reply m answered
  refine ⟨trivial, ?_⟩
  match reply with
  | .error e => exact .inl (lawful.refused answered)
  | .ok doc =>
    have given := lawful.given answered
    refine Program.Meets.bind (edited doc m) fun result t edited => ?_
    obtain ⟨same, saves⟩ := edited
    match result with
    | .error e => exact .inr ⟨doc, same ▸ given⟩
    | .ok ((), new) =>
      obtain ⟨drawn, saves⟩ := saves _ rfl
      intro saved u answered
      refine ⟨trivial, ?_⟩
      match saved with
      | .error e => exact .inr ⟨doc, (lawful.unsaved answered).trans same ▸ given⟩
      | .ok () =>
        refine ⟨doc, kept m, given, ?_⟩
        rw [if_neg (by simp [changes])]
        exact ⟨new, lawful.saved answered, fun p other => saves.change.agree other⟩

theorem program_meets (lawful : k.Lawful answers kept) (call : RepositoryCall) :
    call.program.run.Meets answers (fun _ _ _ _ => True)
      (fun result t => k.Outcome call (kept s) result (kept t)) s := by
  rw [call.program_eq]
  cases used : call.use with
  | looks => exact lawful.look_meets (by simp [RepositoryCall.isRead, used])
  | updates edit =>
    refine lawful.change_meets (by simp [RepositoryCall.isRead, used]) fun doc m => ?_
    refine ⟨rfl, ?_⟩
    rintro _ ⟨⟩
    exact ⟨none, by rw [RepositoryCall.Saves, used]; exact .updates⟩
  | edits edit =>
    refine lawful.change_meets (by simp [RepositoryCall.isRead, used]) fun doc m => ?_
    dsimp only
    cases edited : edit doc with
    | error fault => exact ⟨rfl, nofun⟩
    | ok new =>
      refine ⟨rfl, ?_⟩
      rintro _ ⟨⟩
      exact ⟨none, by rw [RepositoryCall.Saves, used]; exact .edits edited⟩
  | records edit =>
    refine lawful.change_meets (by simp [RepositoryCall.isRead, used]) fun doc m => ?_
    dsimp only
    cases edited : edit doc with
    | error fault => exact ⟨rfl, nofun⟩
    | ok add =>
      intro id t answered
      refine ⟨trivial, lawful.drawn answered, ?_⟩
      rintro _ ⟨⟩
      exact ⟨some id, by rw [RepositoryCall.Saves, used]; exact .records edited⟩

end Lawful

end Keeping

/-- A call to a repository, over either store and whatever fails in it. Where the call returns an
error the store keeps what it kept before, to the last byte, unless a look has given the workspace
its director. Where it returns a value, a question has changed nothing beyond that, and a change has
put a document in place that differs from the one it was given only in the part of that call. -/
theorem repositoryCall_atomic (call : RepositoryCall) :
    (∀ {s t : Option Document} {result : Except Failure Unit},
      call.program.run.Reaches MemoryStore.Serves s (.done result) t →
        MemoryStore.keeping.Outcome call s result t) ∧
    ∀ (path : Path) {s t : Files} {result : Except Failure Unit},
      call.program.run.Reaches (FileStore.Serves path) s (.done result) t →
        FileStore.keeping.Outcome call (s path) result (t path) :=
  ⟨fun ran => (MemoryStore.lawful.program_meets call).ends ran,
    fun path _ _ _ ran => ((FileStore.lawful path).program_meets call).ends ran⟩

/-- A first call whose document does not take its place: the look before it has written that of the
new workspace, and that stays. -/
theorem repositoryCall_atomic_unreplaced : ∃ t : Files,
    (RepositoryCall.setCurrentVm "vm").program.run.Reaches (FileStore.Serves ⟨["state"]⟩)
      (fun _ => none) (.done (.error (.within "Saving new config" (.storage .notReplaced)))) t ∧
    FileStore.keeping.Outcome (.setCurrentVm "vm") none
      (.error (.within "Saving new config" (.storage .notReplaced))) (t ⟨["state"]⟩) := by
  let path : Path := ⟨["state"]⟩
  let new : Files := fun _ => none
  have missing : Files.Answers new (.inspect path) PathStatus.missing new :=
    ⟨nofun, fun _ => rfl, rfl⟩
  have drawn : Files.Answers new .freshId "director" new := rfl
  have wrote (s : Files) (text : String) :
      Files.Answers s (.write path.aside text) true (s.put path.aside (some text.toUTF8)) := rfl
  have renamed (s : Files) (content : ByteArray) :
      Files.Answers (s.put path.aside (some content)) (.rename path.aside path) true
        (((s.put path.aside (some content)).put path.aside none).put path (some content)) :=
    ⟨content, Files.put_same .., rfl⟩
  have failed (s : Files) : Files.Answers s (.rename path.aside path) false s := rfl
  have loaded : ∃ t, (FileStore.load path).run.Reaches Files.Answers new
      (.done (.ok (.fresh "director"))) t :=
    ⟨_, .next missing <| .next drawn <| .next (wrote _ _) <| .next (renamed _ _) <| .here _ _⟩
  obtain ⟨s, loaded⟩ := loaded
  have unsaved : ∃ t, (FileStore.save path (.setCurrentVm "vm" (.fresh "director"))).run.Reaches
      Files.Answers s (.done (.error .notReplaced)) t :=
    ⟨_, .next (wrote _ _) <| .next (failed _) <| .here _ _⟩
  obtain ⟨t, unsaved⟩ := unsaved
  have looks : FileStore.Serves path new .load (.ok (.fresh "director")) s := ⟨_, rfl, loaded⟩
  have saves : FileStore.Serves path s (.save (.setCurrentVm "vm" (.fresh "director")))
      (.error (.storage .notReplaced)) t := ⟨_, rfl, unsaved⟩
  have ran : (RepositoryCall.setCurrentVm "vm").program.run.Reaches (FileStore.Serves path) new
      (.done (.error (.within "Saving new config" (.storage .notReplaced)))) t :=
    .next looks <| .next saves <| .here _ _
  exact ⟨t, ran, (repositoryCall_atomic _).2 path ran⟩

end Reconciler
