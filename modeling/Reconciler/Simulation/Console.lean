import Reconciler.Deployment.Deploy
import Reconciler.Simulation.Answer

/-!
A console on a scripted world: engine programs run in it one after another, and what they return is
kept under names for those that follow.
-/
namespace Reconciler

structure Console where
  world : World
  settings : Settings
  vms : List (String × Vm)
  disks : List (String × DiskRecord)
  stemcells : List (String × StemcellRecord)
  instances : List (String × Instance)
  deployments : List (String × Deployment)
  tunnels : List (String × Tunnel)

namespace Console

def start (world : World) (settings : Settings) : Console :=
  ⟨world, settings, [], [], [], [], [], []⟩

abbrev Live := StateM Console

/-- Puts a value under a name, in place of an older one. -/
def put {α : Type} (name : String) (value : α) (entries : List (String × α)) :
    List (String × α) :=
  (name, value) :: entries.filter (·.1 != name)

def onWorld {α : Type} (action : World.Live α) : Live α := modifyGet fun c =>
  let (a, world) := Id.run (action.run c.world)
  (a, { c with world := world })

def alterWorld (f : World → World) : Live Unit := modify fun c => { c with world := f c.world }

def perform {α : Type} (program : Engine α) : Live (Except Failure α) :=
  onWorld (World.perform program.run)

/-- Runs on a value and returns what became of it. -/
def performOn {σ α : Type} (program : Stateful σ α) (value : σ) : Live (Except Failure α × σ) :=
  onWorld (World.perform (program.runOn value))

def keepVm (name : String) (vm : Vm) : Live Unit :=
  modify fun c => { c with vms := put name vm c.vms }

def keepDisk (name : String) (disk : DiskRecord) : Live Unit :=
  modify fun c => { c with disks := put name disk c.disks }

def keepStemcell (name : String) (stemcell : StemcellRecord) : Live Unit :=
  modify fun c => { c with stemcells := put name stemcell c.stemcells }

def keepInstance (name : String) (i : Instance) : Live Unit :=
  modify fun c => { c with instances := put name i c.instances }

def keepDeployment (name : String) (deployment : Deployment) : Live Unit :=
  modify fun c => { c with deployments := put name deployment c.deployments }

def keepTunnel (name : String) (tunnel : Tunnel) : Live Unit :=
  modify fun c => { c with tunnels := put name tunnel c.tunnels }

/-- A new tunnel. One that ran under its name is told to end and closes in the background. -/
def openTunnel (name : String) (options : TunnelOptions) : Live Unit := do
  match ((← get).tunnels.lookup name).bind Tunnel.session with
  | some session => onWorld (World.tellToEnd session)
  | none => pure ()
  keepTunnel name (.new (← get).settings options)

/-- Takes instances out of their names. -/
def takeInstances : List String → Live (List Instance)
  | [] => return []
  | name :: names => do
    match (← get).instances.lookup name with
    | none => takeInstances names
    | some i =>
      modify fun c => { c with instances := c.instances.filter (·.1 != name) }
      return i :: (← takeInstances names)

/-- A deployment of what is kept under some names; names under which nothing is kept add nothing. -/
def assemble (instances disks stemcells : List String) : Live Deployment := do
  let c ← get
  return {
    instances := ← takeInstances instances
    disks := disks.filterMap (List.lookup · c.disks)
    stemcells := stemcells.filterMap (List.lookup · c.stemcells)
    settings := c.settings }

/-- The requests since the last time, the first one first. -/
def takeJournal : Live (List Request) := modifyGet fun c =>
  (c.world.journal.reverse, { c with world := { c.world with journal := [] } })

end Console

end Reconciler
