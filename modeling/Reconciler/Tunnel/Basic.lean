import Reconciler.Engine
import Reconciler.Retry
import Reconciler.Settings
import Reconciler.Tunnel.Strategy

/-!
An SSH tunnel to a machine on a private network. While the machine starts, its agent reaches the
registry through it. A tunnel connects, trying again as its strategy says, forwards one port in the
background, and can be stopped any number of times.

Covers `SshTunnelOptions` (`for_registry`), `SshTunnel` (`is_running`, `start`, `stop`) and
`SshTunnelFactory`.
-/
namespace Reconciler

/-- Forwards the registry's port on the machine to the registry here. -/
def TunnelOptions.forRegistry (tunnel : SshTunnelConfig) (registry : RegistryConfig) :
    TunnelOptions where
  host := tunnel.host
  port := tunnel.port
  user := tunnel.user
  password := tunnel.password
  privateKey := tunnel.privateKey
  localPort := registry.port
  remotePort := registry.port

structure Tunnel where
  options : TunnelOptions
  strategy : SshRetryStrategy
  retryDelay : Nat
  /-- The connection that forwards, while the tunnel runs. -/
  session : Option Session

namespace Tunnel

def new (settings : Settings) (options : TunnelOptions) : Tunnel where
  options := options
  strategy := .new settings.sshRefusedTimeout settings.sshAuthTimeout
  retryDelay := settings.sshRetryDelay
  session := none

def isRunning (tunnel : Tunnel) : Bool := tunnel.session.isSome

/-- How many attempts can follow the first: each one starts at least one sleep after the one before
it, and inside the window of the class of the error before it. -/
def furtherAttempts (tunnel : Tunnel) : Nat :=
  if tunnel.retryDelay = 0 then attemptLimit
  else
    let pause := sleepTime tunnel.retryDelay
    (tunnel.strategy.refusedTimeout + pause - 1) / pause +
      (tunnel.strategy.authTimeout + pause - 1) / pause

def connectOnce (options : TunnelOptions) : Program Effects (Except SshError Session) :=
  ask (.connect options)

/-- Asks the strategy about an error, which it remembers. -/
def judge (error : SshError) : StateT Tunnel (Program Effects) Bool := do
  let now ← (Clock.now : Program Effects Nat)
  modifyGet fun tunnel =>
    let (again, strategy) := tunnel.strategy.judge now error.class
    (again, { tunnel with strategy := strategy })

/-- Connects, with further attempts while the strategy wants them. -/
def connect : Nat → StateT Tunnel (Program Effects) (Except SshError Session)
  | 0 => do
    match ← connectOnce (← get).options with
    | .ok session => return .ok session
    | .error error =>
      discard <| judge error
      return .error error
  | further + 1 => do
    match ← connectOnce (← get).options with
    | .ok session => return .ok session
    | .error error =>
      if ← judge error then
        (Clock.sleep (← get).retryDelay : Program Effects Unit)
        connect further
      else return .error error

/-- Connects and starts forwarding. A tunnel that runs is not started again. -/
def start : Stateful Tunnel Unit := do
  let tunnel ← get
  if tunnel.isRunning then throw (.invalidState .tunnelAlreadyStarted)
  else
    match ← (connect tunnel.furtherAttempts : StateT Tunnel (Program Effects) _) with
    | .error error =>
      throw (.within s!"Starting SSH tunnel to '{tunnel.options.host}:{tunnel.options.port}'"
        (.ssh error))
    | .ok session =>
      (ask (.forward session tunnel.options.remotePort tunnel.options.localPort) :
        Program Effects Unit)
      modify fun tunnel => { tunnel with session := some session }

/-- Ends the forwarding and waits for its end. Stopping a tunnel that does not run does nothing. -/
def stop : Stateful Tunnel Unit := do
  match (← get).session with
  | none => return ()
  | some session =>
    modify fun tunnel => { tunnel with session := none }
    match ← (ask (.close session) : Program Effects (Except ForwardFault Unit)) with
    | .ok () => return ()
    | .error (.failed error) => throw (.within "Stopping SSH tunnel" (.ssh error))
    | .error .crashed =>
      throw (.within "Stopping SSH tunnel" (.ssh ⟨"forward task panicked"⟩))

end Tunnel

end Reconciler
