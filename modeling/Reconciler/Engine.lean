import Reconciler.Clock
import Reconciler.Effect

/-!
Engine programs: programs over the engine's surroundings that may fail. What they did before they
failed stays done.

Covers `ResultExt` (`context`, `with_context`) as `within`.
-/
namespace Reconciler

abbrev Engine := ExceptT Failure (Program Effects)

/-- Asks the surroundings once. -/
def ask (request : Request) : Program Effects request.Reply := .ask request .done

instance : Clock (Program Effects) where
  now := ask .now
  sleep ms := ask (.sleep ms)

instance : Reporter (Program Effects) where
  report notice := ask (.report notice)

/-- Names the operation that a failure interrupts. -/
def within {α : Type} (context : String) (body : Engine α) : Engine α :=
  ExceptT.mk do return (← body.run).mapError (Failure.within context)

namespace Engine

/-- A call to the cloud, with its error as a value. -/
def tryCloud (call : CloudCall) : Program Effects (Except CloudError call.Answer) :=
  ask (.cloud call)

def cloud (call : CloudCall) : Engine call.Answer :=
  ExceptT.mk do return (← tryCloud call).mapError Failure.cloud

def agent (call : AgentCall) : Engine call.Answer := ExceptT.mk (ask (.agent call))

def render (call : RenderCall) : Engine Json := ExceptT.mk (ask (.render call))

def load : Engine Document := ExceptT.mk (ask .load)

def save (doc : Document) : Engine Unit := ExceptT.mk (ask (.save doc))

def freshId : Engine String := ExceptT.lift (ask .freshId)

/-- One step of a stage, told to the listeners. -/
def runStep {α : Type} (stage : Stage) (name : String) (body : Engine α) : Engine α :=
  stage.run name body

/-- One step that may be skipped. -/
def performStep (stage : Stage) (name : String) (body : Engine Outcome) : Engine Outcome :=
  stage.perform name body

def sleep (ms : Nat) : Engine Unit := ExceptT.lift (Clock.sleep ms)

/-- A result about a manifest. -/
def valid {α : Type} (result : Except ManifestFault α) : Engine α :=
  ExceptT.mk (pure (result.mapError Failure.validation))

/-- A result about the workspace document. -/
def consistent {α : Type} (result : Except StateFault α) : Engine α :=
  ExceptT.mk (pure (result.mapError Failure.invalidState))

end Engine

/-- An engine program that also changes a value in the hands of its caller. What it changed stays
changed when it fails. -/
abbrev Stateful (σ : Type) := ExceptT Failure (StateT σ (Program Effects))

namespace Stateful

variable {σ α : Type}

def ofEngine (body : Engine α) : Stateful σ α := ExceptT.mk (StateT.lift body.run)

instance : MonadLift Engine (Stateful σ) := ⟨ofEngine⟩

/-- Runs on a value and returns what became of it, failed or not. -/
def runOn (body : Stateful σ α) (value : σ) : Program Effects (Except Failure α × σ) :=
  body.run value

/-- Runs on a value that is only kept when nothing fails. -/
def toEngine (body : Stateful σ α) (value : σ) : Engine (α × σ) := ExceptT.mk do
  let (result, value) ← body.runOn value
  return result.map fun a => (a, value)

end Stateful

end Reconciler
