import Reconciler.Workspace.Document

/-!
A store that holds the workspace document itself. Nothing of it outlasts its owner.

Covers `MemoryStateService`: `load`, `save`.
-/
namespace Reconciler

/-- Surroundings that hand out identifiers, each once. -/
class FreshIds (m : Type → Type) where
  freshId : m String

namespace MemoryStore

variable {m : Type → Type} [Monad m] [FreshIds m]

/-- The document; an empty store starts with a fresh one. -/
def load : StateT (Option Document) m Document := do
  match ← get with
  | some doc => return doc
  | none =>
    let doc := Document.fresh (← FreshIds.freshId (m := m))
    set (some doc)
    return doc

def save (doc : Document) : StateT (Option Document) m Unit := set (some doc)

end MemoryStore

end Reconciler
