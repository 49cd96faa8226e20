import Reconciler.Program

/-!
Runs of programs in surroundings that may answer in more than one way. A program reaches a moment
when some requests were answered and the rest of it is left. `Meets` says of all runs at once that
every exchange is safe and every end is as wanted.
-/
namespace Reconciler

/-- How surroundings may answer: a state, a request, a reply to it, and the state after that. -/
abbrev Behaviour (S : Signature) (σ : Type) := σ → (r : S.Request) → S.Reply r → σ → Prop

namespace Program

variable {S : Signature} {α β σ : Type}

/-- From one program and state to what is left of the program, and the state then. -/
inductive Reaches (answers : Behaviour S σ) : Program S α → σ → Program S α → σ → Prop
  | here (p : Program S α) (s : σ) : Reaches answers p s p s
  | next {r : S.Request} {rest : S.Reply r → Program S α} {reply : S.Reply r}
      {last : Program S α} {s t u : σ} (answered : answers s r reply t)
      (later : Reaches answers (rest reply) t last u) : Reaches answers (.ask r rest) s last u

theorem Reaches.trans {answers : Behaviour S σ} {p q l : Program S α} {s t u : σ}
    (first : Reaches answers p s q t) (second : Reaches answers q t l u) :
    Reaches answers p s l u := by
  induction first with
  | here => exact second
  | next answered _ ih => exact .next answered (ih second)

/-- Surroundings that can answer in more ways. -/
theorem Reaches.mono {answers answers' : Behaviour S σ} {p q : Program S α} {s t : σ}
    (reached : p.Reaches answers s q t)
    (more : ∀ s r reply t, answers s r reply t → answers' s r reply t) :
    p.Reaches answers' s q t := by
  induction reached with
  | here => exact .here _ _
  | next answered _ ih => exact .next (more _ _ _ _ answered) ih

/-- A program is a well-founded tree: where every request gets some reply, it comes to an end. -/
theorem exists_done {answers : Behaviour S σ} (total : ∀ s r, ∃ reply t, answers s r reply t)
    (p : Program S α) (s : σ) : ∃ a t, p.Reaches answers s (.done a) t := by
  induction p generalizing s with
  | done a => exact ⟨a, s, .here _ _⟩
  | ask r rest ih =>
    obtain ⟨reply, t, answered⟩ := total s r
    obtain ⟨a, u, later⟩ := ih reply t
    exact ⟨a, u, .next answered later⟩

/-- In every run each exchange is safe, and the end is as `post` says. -/
def Meets (answers safe : Behaviour S σ) (post : α → σ → Prop) : Program S α → σ → Prop
  | .done a, s => post a s
  | .ask r rest, s =>
    ∀ reply t, answers s r reply t → safe s r reply t ∧ Meets answers safe post (rest reply) t

section Meets

variable {answers safe : Behaviour S σ} {p : Program S α} {s : σ}

/-- Nothing is wanted. -/
theorem Meets.anything (p : Program S α) (s : σ) :
    p.Meets answers (fun _ _ _ _ => True) (fun _ _ => True) s := by
  induction p generalizing s with
  | done => exact trivial
  | ask r rest ih => exact fun reply t _ => ⟨trivial, ih reply t⟩

theorem Meets.weaken {post post' : α → σ → Prop} (valid : p.Meets answers safe post s)
    (implies : ∀ a t, post a t → post' a t) : p.Meets answers safe post' s := by
  induction p generalizing s with
  | done a => exact implies a s valid
  | ask r rest ih =>
    intro reply t answered
    obtain ⟨kept, later⟩ := valid reply t answered
    exact ⟨kept, ih reply later⟩

/-- Surroundings that can do less, and a weaker notion of safety. -/
theorem Meets.restrict {answers' safe' : Behaviour S σ} {post : α → σ → Prop}
    (valid : p.Meets answers safe post s)
    (fewer : ∀ s r reply t, answers' s r reply t → answers s r reply t)
    (weaker : ∀ s r reply t, answers' s r reply t → safe s r reply t → safe' s r reply t) :
    p.Meets answers' safe' post s := by
  induction p generalizing s with
  | done a => exact valid
  | ask r rest ih =>
    intro reply t answered
    obtain ⟨kept, later⟩ := valid reply t (fewer s r reply t answered)
    exact ⟨weaker s r reply t answered kept, ih reply later⟩

theorem Meets.and {safe' : Behaviour S σ} {post post' : α → σ → Prop}
    (first : p.Meets answers safe post s) (second : p.Meets answers safe' post' s) :
    p.Meets answers (fun s r reply t => safe s r reply t ∧ safe' s r reply t)
      (fun a t => post a t ∧ post' a t) s := by
  induction p generalizing s with
  | done a => exact ⟨first, second⟩
  | ask r rest ih =>
    intro reply t answered
    obtain ⟨kept, later⟩ := first reply t answered
    obtain ⟨kept', later'⟩ := second reply t answered
    exact ⟨⟨kept, kept'⟩, ih reply later later'⟩

theorem Meets.bind {Q : α → σ → Prop} {post : β → σ → Prop} {f : α → Program S β}
    (first : p.Meets answers safe Q s)
    (second : ∀ a t, Q a t → (f a).Meets answers safe post t) :
    (p >>= f).Meets answers safe post s := by
  induction p generalizing s with
  | done a => exact second a s first
  | ask r rest ih =>
    intro reply t answered
    obtain ⟨kept, later⟩ := first reply t answered
    exact ⟨kept, ih reply later⟩

/-- A relation that every safe exchange keeps ties the end of a run to its beginning. -/
theorem Meets.tracks {post : α → σ → Prop} {R : σ → σ → Prop} (refl : ∀ s, R s s)
    (trans : ∀ s t u, R s t → R t u → R s u) (valid : p.Meets answers safe post s)
    (step : ∀ s r reply t, answers s r reply t → safe s r reply t → R s t) :
    p.Meets answers safe (fun a t => post a t ∧ R s t) s := by
  induction p generalizing s with
  | done a => exact ⟨valid, refl s⟩
  | ask r rest ih =>
    intro reply t answered
    obtain ⟨safely, later⟩ := valid reply t answered
    refine ⟨safely, (ih reply later).weaken fun a u h => ⟨h.1, ?_⟩⟩
    exact trans s t u (step s r reply t answered safely) h.2

theorem Meets.ofMap {post : β → σ → Prop} {h : α → β}
    (valid : (p >>= fun a => pure (h a)).Meets answers safe post s) :
    p.Meets answers safe (fun a t => post (h a) t) s := by
  induction p generalizing s with
  | done a => exact valid
  | ask r rest ih =>
    intro reply t answered
    obtain ⟨kept, later⟩ := valid reply t answered
    exact ⟨kept, ih reply later⟩

/-- What holds of all runs holds of the rest of a run from any of its moments. -/
theorem Meets.reach {post : α → σ → Prop} {q : Program S α} {t : σ}
    (valid : p.Meets answers safe post s) (reached : p.Reaches answers s q t) :
    q.Meets answers safe post t := by
  induction reached with
  | here => exact valid
  | next answered _ ih => exact ih (valid _ _ answered).2

theorem Meets.ends {post : α → σ → Prop} {a : α} {t : σ} (valid : p.Meets answers safe post s)
    (reached : p.Reaches answers s (.done a) t) : post a t := valid.reach reached

/-- A property that every safe exchange keeps holds at every moment. -/
theorem Meets.always {post : α → σ → Prop} {q : Program S α} {t : σ} (holds : σ → Prop)
    (valid : p.Meets answers safe post s) (reached : p.Reaches answers s q t) (start : holds s)
    (step : ∀ s r reply t, answers s r reply t → safe s r reply t → holds s → holds t) :
    holds t := by
  induction reached with
  | here => exact start
  | next answered _ ih =>
    obtain ⟨kept, later⟩ := valid _ _ answered
    exact ih later (step _ _ _ _ answered kept start)

end Meets

section Refinement

variable {τ : Type} {answers safe : Behaviour S σ} {answers' : Behaviour S τ} {R : σ → τ → Prop}
  {p left : Program S α} {s : σ} {u v : τ}

/-- Whatever the other surroundings do, these can do as well, and they stay alike as long as every
exchange is safe. -/
def Refines (answers safe : Behaviour S σ) (answers' : Behaviour S τ) (R : σ → τ → Prop) : Prop :=
  ∀ s u r reply v, R s u → answers' u r reply v →
    ∃ t, answers s r reply t ∧ (safe s r reply t → R t v)

/-- A run in the other surroundings is one in these. -/
theorem Meets.refined {post : α → σ → Prop} (valid : p.Meets answers safe post s)
    (refines : Refines answers safe answers' R) (alike : R s u)
    (reached : p.Reaches answers' u left v) : ∃ t, p.Reaches answers s left t ∧ R t v := by
  induction reached generalizing s with
  | here => exact ⟨s, .here _ _, alike⟩
  | next answered' _ ih =>
    obtain ⟨t, answered, keeps⟩ := refines _ _ _ _ _ alike answered'
    obtain ⟨safely, later⟩ := valid _ _ answered
    obtain ⟨last, reached, alike'⟩ := ih later (keeps safely)
    exact ⟨last, .next answered reached, alike'⟩

/-- Where the other surroundings have a reply as long as they are alike, the program comes to its
end there. -/
theorem Meets.exists_done {post : α → σ → Prop} (valid : p.Meets answers safe post s)
    (refines : Refines answers safe answers' R)
    (total : ∀ s u r, R s u → ∃ reply v, answers' u r reply v) (alike : R s u) :
    ∃ a v, p.Reaches answers' u (.done a) v := by
  induction p generalizing s u with
  | done a => exact ⟨a, u, .here _ _⟩
  | ask r rest ih =>
    obtain ⟨reply, v, answered'⟩ := total s u r alike
    obtain ⟨t, answered, keeps⟩ := refines _ _ _ _ _ alike answered'
    obtain ⟨safely, later⟩ := valid reply t answered
    obtain ⟨a, w, reached⟩ := ih reply later (keeps safely)
    exact ⟨a, w, .next answered' reached⟩

/-- What is known of all runs in a state is known in one that has more to it. -/
theorem Meets.along {post : α → σ → Prop} {view : τ → σ}
    (valid : p.Meets answers safe post (view u))
    (fewer : ∀ u r reply v, answers' u r reply v → answers (view u) r reply (view v)) :
    p.Meets answers' (fun u r reply v => safe (view u) r reply (view v))
      (fun a v => post a (view v)) u := by
  induction p generalizing u with
  | done a => exact valid
  | ask r rest ih =>
    intro reply v answered
    obtain ⟨safely, later⟩ := valid reply (view v) (fewer u r reply v answered)
    exact ⟨safely, ih reply later⟩

/-- Surroundings that answer by a rule reach what those may reach that allow its answers. -/
theorem reaches_run {answer : (r : S.Request) → τ → S.Reply r × τ} {view : τ → σ}
    (allowed : ∀ r u, answers (view u) r (answer r u).1 (view (answer r u).2)) (p : Program S α)
    (u : τ) : p.Reaches answers (view u) (.done (p.run answer u).1) (view (p.run answer u).2) := by
  induction p generalizing u with
  | done a => exact .here _ _
  | ask r rest ih => exact .next (allowed r u) (ih _ _)

end Refinement

/-- In every run something is added to a log, as it should be for the value at the end. -/
def Logs {ε : Type} (answers : Behaviour S (List ε)) (p : Program S α)
    (post : α → List ε → Prop) : Prop :=
  ∀ s, p.Meets answers (fun _ _ _ _ => True) (fun a t => ∃ new, t = s ++ new ∧ post a new) s

section Logs

variable {ε : Type} {answers : Behaviour S (List ε)} {p : Program S α} {post : α → List ε → Prop}

theorem Logs.done {a : α} (nothing : post a []) : Logs answers (.done a) post :=
  fun s => ⟨[], (List.append_nil s).symm, nothing⟩

theorem Logs.weaken {post' : α → List ε → Prop} (logs : Logs answers p post)
    (implies : ∀ a new, post a new → post' a new) : Logs answers p post' := by
  refine fun s => (logs s).weaken ?_
  rintro a t ⟨new, rfl, reached⟩
  exact ⟨new, rfl, implies a new reached⟩

theorem Logs.bind {f : α → Program S β} {post' : β → List ε → Prop} (first : Logs answers p post)
    (second : ∀ a new, post a new → Logs answers (f a) fun b later => post' b (new ++ later)) :
    Logs answers (p >>= f) post' := by
  refine fun s => Meets.bind (first s) ?_
  rintro a _ ⟨new, rfl, reached⟩
  refine (second a new reached (s ++ new)).weaken ?_
  rintro b _ ⟨later, rfl, wanted⟩
  exact ⟨new ++ later, List.append_assoc .., wanted⟩

theorem Logs.ofMap {post : β → List ε → Prop} {h : α → β}
    (logs : Logs answers (p >>= fun a => pure (h a)) post) :
    Logs answers p fun a new => post (h a) new := fun s => (logs s).ofMap

end Logs

end Program

end Reconciler
