import Reconciler.Proofs.Pledges

/-!
The stores that keep the pledge. The store in memory keeps it for any settings, and the one in a
file for settings without floating point numbers that leave room for the document around them; of
another number the text that is written may be read as the number next to it.
-/
namespace Reconciler

/-- What may be relied on in a store for the way in which its states keep a document. -/
def Keeping.pledge {κ σ : Type} (keeping : Keeping κ) (kept : σ → κ) (fits : Properties → Prop) :
    Pledge σ := ⟨fun s => keeping.Holds (kept s), fits⟩

/-- A store keeps the pledge when each of its states says one document only, and a document that was
put there is the one that is said. -/
theorem Keeping.Lawful.pledged {κ σ : Type} {keeping : Keeping κ} {kept : σ → κ}
    {store : Behaviour Effects σ} {fits : Properties → Prop}
    (lawful : keeping.Lawful store kept)
    (single : ∀ {x doc doc'}, keeping.Holds x doc → keeping.Holds x doc' → doc' = doc)
    (recovered : ∀ {doc : Document}, doc.SettingsFit fits → keeping.Holds (keeping.put doc) doc)
    (unread : ∀ {s t e}, store s .load (.error e) t → ∃ fault, e = .storage fault)
    (unwritten : ∀ {s t doc e}, store s (.save doc) (.error e) t → ∃ fault, e = .storage fault) :
    (keeping.pledge kept fits).Kept store where
  given {s t doc seen} said stored gave := by
    rcases lawful.given gave with ⟨held, same⟩ | ⟨raw, held, undirected, named, put⟩
    · obtain rfl := single said held
      refine ⟨rfl, fun _ => rfl, ?_⟩
      change keeping.Holds (kept t) seen
      rwa [same]
    · obtain rfl := single said held
      refine ⟨named, fun directed => absurd undirected directed, ?_⟩
      change keeping.Holds (kept t) seen
      rw [put]
      apply recovered
      intro disk recorded
      rw [named] at recorded
      exact stored disk recorded
  refused {s t doc e} said failed := by
    refine ⟨unread failed, ?_⟩
    change keeping.Holds (kept t) doc
    rwa [lawful.refused failed]
  saved {s t doc} stored took := by
    change keeping.Holds (kept t) doc
    rw [lawful.saved took]
    exact recovered stored
  unsaved {s t doc new e} said failed := by
    refine ⟨unwritten failed, ?_⟩
    change keeping.Holds (kept t) doc
    rwa [lawful.unsaved failed]

namespace MemoryStore

/-- Anything that was saved comes back. -/
def pledge : Pledge (Option Document) := keeping.pledge id fun _ => True

theorem pledge_kept : pledge.Kept Serves :=
  lawful.pledged (fun said said' => Eq.trans said' (Eq.symm said)) (fun _ => rfl) False.elim
    False.elim

theorem pledge_works : pledge.Works Serves where
  gives {kept _} _ := by
    cases kept with
    | some doc => exact ⟨doc, some doc, "", rfl⟩
    | none => exact ⟨_, _, "director", rfl⟩
  saves _ doc := ⟨some doc, "", rfl⟩

/-- What is known once there is a document: it is the one that was saved last, and no director is
given to it any more. -/
def filled : Pledge (Option Document) := ⟨fun kept doc => kept = some doc, fun _ => True⟩

theorem filled_kept : filled.Kept Serves where
  given said _ gave := by
    cases said
    obtain ⟨_, same⟩ := gave
    cases same
    exact ⟨rfl, fun _ => rfl, rfl⟩
  refused _ impossible := impossible.elim
  saved _ took := by
    obtain ⟨_, same⟩ := took
    cases same
    rfl
  unsaved _ impossible := impossible.elim

theorem filled_minting : filled.Minting False Serves := by
  intro k l doc seen said gave
  cases said
  obtain ⟨_, same⟩ := gave
  cases same
  exact ⟨False.elim, fun _ => rfl⟩

end MemoryStore

/-- As files answer where no identifier that is drawn is empty. -/
def Files.AnswersNamed : Behaviour FileEffects Files := fun s r reply t =>
  Files.Answers s r reply t ∧
    match r, reply with
    | .freshId, id => id ≠ ""
    | _, _ => True

namespace FileStore

variable {path : Path} {files : Files}

/-- How a workspace in a file answers where no identifier that is drawn is empty. -/
def ServesNamed (path : Path) : Behaviour Effects Files := fun s r reply t =>
  match r, reply with
  | .load, reply => ∃ result, reply = result.mapError Failure.storage ∧
      (load path).run.Reaches Files.AnswersNamed s (.done result) t
  | .save doc, reply => ∃ result, reply = result.mapError Failure.storage ∧
      (save path doc).run.Reaches Files.AnswersNamed s (.done result) t
  | _, _ => t = s

theorem ServesNamed.serves {s t : Files} {r : Request} {reply : r.Reply}
    (served : ServesNamed path s r reply t) : Serves path s r reply t := by
  cases r with
  | load | save =>
    obtain ⟨result, same, ran⟩ := served
    exact ⟨result, same, ran.mono fun _ _ _ _ => And.left⟩
  | _ => exact served

/-- Settings without floating point numbers come back. -/
def pledge (path : Path) : Pledge Files :=
  keeping.pledge (fun files => files path) Properties.Storable

theorem keeping_single {content : Option ByteArray} {doc doc' : Document}
    (held : keeping.Holds content doc) (held' : keeping.Holds content doc') : doc' = doc := by
  rcases held with ⟨rfl, rfl⟩ | ⟨text, rfl, parsed⟩
  · rcases held' with ⟨-, rfl⟩ | ⟨text, impossible, -⟩
    · rfl
    · cases impossible
  · rcases held' with ⟨impossible, -⟩ | ⟨text', same, parsed'⟩
    · cases impossible
    · have alike : some text = some text' := by
        rw [← fromUTF8?_toUTF8 text, ← fromUTF8?_toUTF8 text', Option.some.inj same]
      cases alike
      exact Option.some.inj (parsed'.symm.trans parsed)

theorem storage_of_mapError {α : Type} {result : Except StorageFault α} {e : Failure}
    (same : .error e = result.mapError Failure.storage) : ∃ fault, e = .storage fault := by
  cases result with
  | ok a => cases same
  | error fault =>
    cases same
    exact ⟨fault, rfl⟩

theorem pledge_kept (path : Path) : (pledge path).Kept (ServesNamed path) := by
  have kept : (pledge path).Kept (Serves path) := by
    refine (lawful path).pledged keeping_single
      (fun stored => .inr (Document.says_indented stored)) ?_ ?_
    · rintro s t e ⟨result, same, -⟩
      exact storage_of_mapError same
    · rintro s t doc e ⟨result, same, -⟩
      exact storage_of_mapError same
  exact kept.restrict fun _ _ _ _ => ServesNamed.serves

/-- A document that is handed out has its director. -/
def Directed : Except StorageFault Document → Files → Prop
  | .ok doc, _ => doc.directorId ≠ ""
  | .error _, _ => True

theorem mint_directs (raw : Document) :
    (mint path raw).run.Meets Files.AnswersNamed (fun _ _ _ _ => True) Directed files := by
  rw [mint, run_freshId_bind]
  rintro id t ⟨-, named⟩
  refine ⟨trivial, Program.Meets.bind (Program.Meets.anything _ _) ?_⟩
  intro result u _
  cases result with
  | ok => exact named
  | error _ => trivial

theorem load_directs :
    (load path).run.Meets Files.AnswersNamed (fun _ _ _ _ => True) Directed files := by
  rw [load, run_inspect_bind]
  intro status t _
  refine ⟨trivial, ?_⟩
  cases status with
  | unknown => trivial
  | missing => exact mint_directs _
  | present =>
    dsimp only
    rw [loadExisting, run_read_bind]
    intro text u _
    refine ⟨trivial, ?_⟩
    cases text with
    | none => trivial
    | some text =>
      dsimp only
      split
      case h_1 => trivial
      case h_2 doc _ =>
        split
        case isTrue => exact mint_directs doc
        case isFalse directed => exact (by simpa using directed : doc.directorId ≠ "")

theorem pledge_minting (path : Path) : (pledge path).Minting True (ServesNamed path) := by
  rintro s t doc seen - ⟨result, same, ran⟩
  cases result with
  | error e => cases same
  | ok found =>
    cases same
    have directed : seen.directorId ≠ "" := load_directs.ends ran
    exact ⟨fun _ => directed, fun impossible => absurd trivial impossible⟩

/-- What files come to in which nothing fails. -/
theorem reaches_ran {α : Type} (action : Action α) (files : Files) (ids : Supply) :
    action.run.Reaches Files.AnswersNamed files (.done (ran action files ids).1)
      (ran action files ids).2.1 := by
  have allowed (r : FileRequest) (u : Files × Supply) :
      Files.AnswersNamed u.1 r (Files.serve r u).1 (Files.serve r u).2.1 := by
    obtain ⟨files, ids⟩ := u
    refine ⟨Files.serve_answers r files ids, ?_⟩
    cases r with
    | freshId => exact (ids 0).property
    | _ => trivial
  exact Program.reaches_run allowed action.run (files, ids)

/-- A document without a director is given one. -/
theorem ran_load_undirected {doc : Document} (ids : Supply)
    (said : Reconciler.Says (files path) doc) (undirected : doc.directorId = "") : ∃ files',
    ran (load path) files ids =
      (.ok { doc with directorId := ids 0 }, files', ids.next) := by
  obtain ⟨text, content, parsed⟩ := said
  obtain ⟨files', saved, -⟩ := ran_save path { doc with directorId := ids 0 } files ids.next
  refine ⟨files', ?_⟩
  rw [load, ran_inspect]
  simp only [content, Option.isSome_some, if_true]
  rw [loadExisting, ran_read]
  simp only [content, Option.bind_some, fromUTF8?_toUTF8, parsed]
  rw [if_pos (by simp [undirected]), mint, ran_freshId]
  exact ran_bind saved _

theorem served_load {doc : Document} (said : Reconciler.Says (files path) doc)
    (directed : doc.directorId ≠ "") : ServesNamed path files .load (.ok doc) files := by
  have reached := reaches_ran (load path) files .counted
  rw [ran_load_present .counted said directed] at reached
  exact ⟨.ok doc, rfl, reached⟩

theorem served_save (path : Path) (doc : Document) (files : Files) :
    ∃ files', ServesNamed path files (.save doc) (.ok ()) files' := by
  obtain ⟨files', saved, -⟩ := ran_save path doc files .counted
  have reached := reaches_ran (save path doc) files .counted
  rw [saved] at reached
  exact ⟨files', .ok (), rfl, reached⟩

theorem pledge_works (path : Path) : (pledge path).Works (ServesNamed path) where
  gives {files doc} said := by
    have minted {new : Document} {files' : Files} {ids : Supply}
        (found : ran (load path) files .counted = (.ok new, files', ids)) :
        ∃ seen files', ServesNamed path files .load (.ok seen) files' := by
      have reached := reaches_ran (load path) files .counted
      rw [found] at reached
      exact ⟨new, files', .ok new, rfl, reached⟩
    rcases said with ⟨missing, -⟩ | said
    · obtain ⟨files', found, -⟩ := ran_load_missing .counted missing
      exact minted found
    · by_cases directed : doc.directorId = ""
      · obtain ⟨files', found⟩ := ran_load_undirected .counted said directed
        exact minted found
      · exact ⟨doc, files, served_load said directed⟩
  saves files doc := served_save path doc files

end FileStore

end Reconciler
