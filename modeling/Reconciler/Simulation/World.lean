import Reconciler.Engine
import Reconciler.Progress.Recorder
import Reconciler.Simulation.Identifiers
import Reconciler.Simulation.Place
import Reconciler.Simulation.Script

/-!
A scripted world for the engine: a cloud, an agent, a renderer, SSH, a store and a clock that all
live in memory. This module holds what the world consists of; how time passes in it and how it
answers requests stand in modules of their own.
-/
namespace Reconciler

inductive Store
  | memory (doc : Option Document)
  | file (place : Place)

/-- How far the background work of a tunnel is. -/
inductive Forwarding
  /-- It is not known yet whether the port can be forwarded. It may have been told to end. -/
  | starting (ended : Bool)
  | serving
  | closing
  | over (result : Except ForwardFault Unit)

structure World where
  now : Nat
  ids : Identifiers
  /-- How many identifiers were handed out. -/
  minted : Nat
  store : Store
  rules : List Rule
  /-- Time that calls take, by point. -/
  latencies : List (String × Nat)
  vms : List String
  disks : List String
  stemcells : List String
  /-- How many cloud ids were made up. -/
  created : Nat
  /-- Cloud ids to use before any is made up. -/
  queuedCids : List String
  jobStates : List String
  networks : Properties
  mounted : List String
  forwardings : List Forwarding
  /-- Times at which a forwarding goes on, the next one first. -/
  alarms : List (Nat × Session)
  /-- Ports that were forwarded, remote and local. -/
  forwards : List (UInt16 × UInt16)
  closed : Nat
  recorder : Recorder
  /-- Calls and notices, the last one first. -/
  journal : List Request

namespace World

def start (store : Store) (ids : Identifiers) : World where
  now := 0
  ids := ids
  minted := 0
  store := store
  rules := []
  latencies := []
  vms := []
  disks := []
  stemcells := []
  created := 0
  queuedCids := []
  jobStates := []
  networks := []
  mounted := []
  forwardings := []
  alarms := []
  forwards := []
  closed := 0
  recorder := .empty
  journal := []

/-- What a cloud keeps. -/
inductive Thing
  | vm
  | disk
  | stemcell
  deriving DecidableEq, Repr

def Thing.ofName? : String → Option Thing
  | "vm" => some .vm
  | "disk" => some .disk
  | "stemcell" => some .stemcell
  | _ => none

/-- Changes the cloud ids of one sort of things. -/
def alterThings (f : List String → List String) (w : World) : Thing → World
  | .vm => { w with vms := f w.vms }
  | .disk => { w with disks := f w.disks }
  | .stemcell => { w with stemcells := f w.stemcells }

abbrev Live := StateM World

def mint : Live String := modifyGet fun w =>
  (w.ids.nth (w.minted + 1), { w with minted := w.minted + 1 })

instance : FreshIds Live := ⟨mint⟩

def write (request : Request) : Live Unit := modify fun w =>
  { w with journal := request :: w.journal }

def rulesAt (point : String) (argument : Option String) : Live (Option Mishap) :=
  modifyGet fun w =>
    let (mishap, rules) := Rule.fire point argument w.rules
    (mishap, { w with rules := rules })

/-- How long calls at a point take. -/
def latency (point : String) (w : World) : Nat := (w.latencies.lookup point).getD 0

end World

end Reconciler
