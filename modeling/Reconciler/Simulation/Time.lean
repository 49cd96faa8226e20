import Reconciler.Simulation.World

/-!
How time passes in a scripted world. Ports are forwarded in the background: a forwarding takes its
time to start, serves until it is told to end, counts as closed and takes its time to close. Alarms
say when one goes on; they are kept in the order of their times, and those of one time in the order
in which they were set.
-/
namespace Reconciler.World

def become (session : Session) (forwarding : Forwarding) : Live Unit := modify fun w =>
  { w with forwardings := w.forwardings.set session forwarding }

def setAlarm (session : Session) (wait : Nat) : Live Unit := modify fun w =>
  let due := w.now + sleepTime wait
  { w with
    alarms := w.alarms.takeWhile (·.1 ≤ due) ++ (due, session) :: w.alarms.dropWhile (·.1 ≤ due) }

/-- What a mishap leaves of a forwarding. -/
def endedBy : Option Mishap → Except ForwardFault Unit
  | none => .ok ()
  | some (.ssh message) => .error (.failed ⟨message⟩)
  | some _ => .error .crashed

def finishClosing (session : Session) : Live Unit := do
  let mishap ← rulesAt "ssh.close" none
  become session (.over (endedBy mishap))

/-- A forwarding counts as closed before it takes its time to close. -/
def beginClosing (session : Session) : Live Unit := do
  modify fun w => { w with closed := w.closed + 1 }
  let wait := (← get).latency "ssh.close"
  if wait = 0 then finishClosing session
  else
    become session .closing
    setAlarm session wait

/-- A forwarding that was told to end while it started closes at once. -/
def finishStarting (session : Session) (ended : Bool) : Live Unit := do
  match ← rulesAt "ssh.forward" none with
  | some mishap => become session (.over (endedBy mishap))
  | none => if ended then beginClosing session else become session .serving

def beginStarting (session : Session) : Live Unit := do
  let wait := (← get).latency "ssh.forward"
  if wait = 0 then finishStarting session false
  else
    become session (.starting false)
    setAlarm session wait

/-- Tells a forwarding to end, and does not wait for it. -/
def tellToEnd (session : Session) : Live Unit := do
  match (← get).forwardings[session]? with
  | some (.starting _) => become session (.starting true)
  | some .serving => beginClosing session
  | _ => return ()

/-- What a forwarding does when its alarm goes off. -/
def goOn (session : Session) : Live Unit := do
  match (← get).forwardings[session]? with
  | some (.starting ended) => finishStarting session ended
  | some .closing => finishClosing session
  | _ => return ()

/-- Lets the alarms go off that are due by a time, at most so many. -/
def ring (limit : Nat) : Nat → Live Unit
  | 0 => return ()
  | count + 1 => do
    match (← get).alarms with
    | [] => return ()
    | (due, session) :: rest =>
      if due ≤ limit then
        modify fun w => { w with now := max w.now due, alarms := rest }
        goOn session
        ring limit count

/-- Alarms that can go off before all forwardings rest: an alarm is followed by one more at most. -/
def alarmBound (w : World) : Nat := 2 * w.alarms.length

def pass (ms : Nat) : Live Unit := do
  let w ← get
  ring (w.now + ms) w.alarmBound
  modify fun later => { later with now := w.now + ms }

def sleep (ms : Nat) : Live Unit := pass (sleepTime ms)

/-- Lets time pass from alarm to alarm until a forwarding is over. -/
def awaitEnd (session : Session) : Nat → Live (Except ForwardFault Unit)
  | 0 => return .ok ()
  | count + 1 => do
    let w ← get
    match w.forwardings[session]?, w.alarms with
    | some (.over result), _ => return result
    | _, [] => return .ok ()
    | _, (due, _) :: _ =>
      pass (due - w.now)
      awaitEnd session count

end Reconciler.World
