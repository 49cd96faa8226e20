/-!
Programs that ask their surroundings. A program is a tree: it is done with a value, or it asks a
request and goes on from the reply. What a request means is left to whoever runs the program, so a
statement about a program can be made for every way the surroundings may behave.
-/
namespace Reconciler

/-- The requests that may be asked, and the type of the reply to each. -/
structure Signature where
  Request : Type
  Reply : Request → Type

inductive Program (S : Signature) (α : Type) : Type
  | done (value : α)
  | ask (request : S.Request) (next : S.Reply request → Program S α)

namespace Program

variable {S : Signature} {α β γ σ : Type}

def bind : Program S α → (α → Program S β) → Program S β
  | .done a, f => f a
  | .ask request next, f => .ask request fun reply => bind (next reply) f

instance : Monad (Program S) where
  pure := .done
  bind := bind

@[simp] theorem pure_eq (a : α) : (pure a : Program S α) = .done a := rfl

@[simp] theorem done_bind (a : α) (f : α → Program S β) : (.done a : Program S α) >>= f = f a := rfl

@[simp] theorem ask_bind (request : S.Request) (next : S.Reply request → Program S α)
    (f : α → Program S β) :
    (.ask request next : Program S α) >>= f = .ask request fun reply => next reply >>= f := rfl

theorem bind_done (x : Program S α) : bind x .done = x := by
  induction x with
  | done => rfl
  | ask request next ih => exact congrArg (Program.ask request) (funext ih)

theorem bind_assoc (x : Program S α) (f : α → Program S β) (g : β → Program S γ) :
    bind (bind x f) g = bind x fun a => bind (f a) g := by
  induction x with
  | done => rfl
  | ask request next ih => exact congrArg (Program.ask request) (funext ih)

instance : LawfulMonad (Program S) :=
  LawfulMonad.mk' (Program S) bind_done (fun _ _ => rfl) bind_assoc

/-- Runs a program in surroundings that have a state and answer every request. -/
def run (answer : (r : S.Request) → σ → S.Reply r × σ) : Program S α → σ → α × σ
  | .done a, s => (a, s)
  | .ask r next, s =>
    let (reply, s) := answer r s
    run answer (next reply) s

theorem run_bind (answer : (r : S.Request) → σ → S.Reply r × σ) (x : Program S α)
    (f : α → Program S β) (s : σ) :
    (x >>= f).run answer s = (f (x.run answer s).1).run answer (x.run answer s).2 := by
  induction x generalizing s with
  | done => rfl
  | ask r next ih => exact ih _ _

end Program

end Reconciler
