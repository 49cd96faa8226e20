import Reconciler.Proofs.Courses

/-!
SSH sessions. What a session forwards runs in the background: it may come to its end at any time,
well or not, and has come to its end when the session was closed. What became of the sessions of a
run is told by what was asked in it.
-/
namespace Reconciler

/-- How far a session has come. -/
inductive Link
  | unused
  | connected
  /-- A task forwards in the background. -/
  | forwarding
  /-- The task has ended so. -/
  | ended (result : Except ForwardFault Unit)

namespace Link

def age : Link → Nat
  | .unused => 0
  | .connected => 1
  | .forwarding => 2
  | .ended _ => 3

/-- A task may end on its own, fail or crash. -/
inductive Drifts : Link → Link → Prop
  | stays (link : Link) : Drifts link link
  | ends (result : Except ForwardFault Unit) : Drifts .forwarding (.ended result)

theorem Drifts.age_le {link later : Link} (drifts : link.Drifts later) : link.age ≤ later.age := by
  cases drifts with
  | stays => exact le_refl _
  | ends => exact Nat.le_succ 2

theorem Drifts.ended {result : Except ForwardFault Unit} {later : Link}
    (drifts : (Link.ended result).Drifts later) : later = .ended result := by
  cases drifts
  rfl

theorem Drifts.unused {later : Link} (drifts : Link.unused.Drifts later) : later = .unused := by
  cases drifts
  rfl

end Link

/-- How far each session has come. -/
abbrev Links := Session → Link

namespace Exchange

def connected : Exchange → Option Session
  | ⟨.connect _, .ok session⟩ => some session
  | _ => none

def closed : Exchange → Option Session
  | ⟨.close session, _⟩ => some session
  | _ => none

def forwarded : Exchange → Option Session
  | ⟨.forward session .., _⟩ => some session
  | _ => none

/-- What an exchange makes of a session. -/
def turn (session : Session) (e : Exchange) : Link → Link
  | .unused => if e.connected = some session then .connected else .unused
  | .connected => if e.forwarded = some session then .forwarding else .connected
  | .forwarding => match e with
    | ⟨.close asked, result⟩ => if asked = session then .ended result else .forwarding
    | _ => .forwarding
  | .ended result => .ended result

/-- A connection is a session that was not there before, and who closes a session is told how its
task has ended. -/
def Fits (links : Links) : Exchange → Prop
  | ⟨.connect _, .ok session⟩ => links session = .unused
  | ⟨.close session, reply⟩ => ∀ result, links session = .ended result → reply = result
  | _ => True

/-- What becomes of the sessions while a request is answered. -/
def Turns (e : Exchange) (before after : Links) : Prop :=
  ∃ between : Links, (∀ session, (before session).Drifts (between session)) ∧ e.Fits between ∧
    ∀ session, after session = e.turn session (between session)

end Exchange

/-- Sessions, and what was asked, but for notices. -/
structure Linked where
  links : Links
  calls : List Exchange

/-- Any answer may come as in `Traced`, and any task may end meanwhile. -/
def AnswersLinked : Behaviour Effects Linked := fun s r reply t =>
  Traced s.calls r reply t.calls ∧ Exchange.Turns ⟨r, reply⟩ s.links t.links

theorem answersLinked (s : Linked) {between : Links} {r : Request} {reply : r.Reply}
    (drifts : ∀ session, (s.links session).Drifts (between session)) (expected : r.Plausible reply)
    (fits : Exchange.Fits between ⟨r, reply⟩) : AnswersLinked s r reply
      ⟨fun session => Exchange.turn session ⟨r, reply⟩ (between session),
        if r.isNotice then s.calls else s.calls ++ [⟨r, reply⟩]⟩ :=
  ⟨⟨expected, rfl⟩, between, drifts, fits, fun _ => rfl⟩

namespace Exchange

variable {e : Exchange} {before after : Links} {session : Session}

theorem age_le_turn (session : Session) (e : Exchange) (link : Link) :
    link.age ≤ (e.turn session link).age := by
  cases link with
  | unused => exact Nat.zero_le _
  | connected =>
    simp only [turn]
    split <;> simp [Link.age]
  | forwarding =>
    simp only [turn]
    split
    · split <;> simp [Link.age]
    · exact le_refl _
  | ended => exact le_refl _

theorem Turns.age_le (turns : e.Turns before after) :
    (before session).age ≤ (after session).age := by
  obtain ⟨between, drifts, -, turned⟩ := turns
  rw [turned]
  exact (drifts session).age_le.trans (age_le_turn session e _)

/-- Only a connection brings a session into use. -/
theorem Turns.used (turns : e.Turns before after) (unused : before session = .unused)
    (used : after session ≠ .unused) : e.connected = some session := by
  obtain ⟨between, drifts, -, turned⟩ := turns
  have drifted := drifts session
  rw [unused] at drifted
  rw [turned, drifted.unused] at used
  by_contra other
  exact used (if_neg other)

theorem Turns.connected {options : TunnelOptions}
    (turns : Exchange.Turns ⟨.connect options, .ok session⟩ before after) :
    1 ≤ (after session).age := by
  obtain ⟨between, -, fits, turned⟩ := turns
  have unused : between session = .unused := fits
  have opens : turn session ⟨.connect options, .ok session⟩ .unused = .connected := if_pos rfl
  rw [turned, unused, opens]
  exact le_refl 1

theorem Turns.forwarded {remotePort localPort : UInt16}
    (turns : Exchange.Turns ⟨.forward session remotePort localPort, ()⟩ before after)
    (opened : 1 ≤ (before session).age) : 2 ≤ (after session).age := by
  obtain ⟨between, drifts, -, turned⟩ := turns
  have opened := opened.trans (drifts session).age_le
  rw [turned]
  cases link : between session with
  | unused => simp [link, Link.age] at opened
  | connected =>
    have starts : turn session ⟨.forward session remotePort localPort, ()⟩ .connected =
        .forwarding := if_pos rfl
    rw [starts]
    exact le_refl 2
  | _ => simp [turn, Link.age]

/-- Whoever closes a session that forwards is told its end. -/
theorem Turns.closed {reply : Except ForwardFault Unit}
    (turns : Exchange.Turns ⟨.close session, reply⟩ before after)
    (started : 2 ≤ (before session).age) : after session = .ended reply := by
  obtain ⟨between, drifts, fits, turned⟩ := turns
  have started := started.trans (drifts session).age_le
  rw [turned]
  cases link : between session with
  | unused | connected => simp [link, Link.age] at started
  | forwarding => simp [turn]
  | ended result => exact congrArg _ (fits result link).symm

theorem Turns.ended {result : Except ForwardFault Unit} (turns : e.Turns before after)
    (finished : before session = .ended result) : after session = .ended result := by
  obtain ⟨between, drifts, -, turned⟩ := turns
  have drifted := drifts session
  rw [finished] at drifted
  rw [turned, drifted.ended]
  rfl

end Exchange

/-- From some links to others while something was asked, and something told. -/
inductive Leads : Links → List Exchange → Links → Prop
  | refl (links : Links) : Leads links [] links
  | told {notice : Notice} {before between after : Links} {calls : List Exchange}
      (turns : Exchange.Turns ⟨.report notice, ()⟩ before between)
      (later : Leads between calls after) : Leads before calls after
  | asked {e : Exchange} {before between after : Links} {calls : List Exchange}
      (turns : e.Turns before between) (later : Leads between calls after) :
      Leads before (e :: calls) after

/-- What is known of a run from its replies alone is known of it with the sessions. -/
theorem Program.Reaches.leads {α : Type} {p q : Program Effects α} {s t : Linked}
    (ran : p.Reaches AnswersLinked s q t) : p.Reaches Traced s.calls q t.calls ∧
      ∃ calls, t.calls = s.calls ++ calls ∧ Leads s.links calls t.links := by
  induction ran with
  | here => exact ⟨.here _ _, [], by simp, .refl _⟩
  | @next r _ reply _ _ _ _ answered _ ih =>
    obtain ⟨ran, calls, asked, leads⟩ := ih
    obtain ⟨⟨expected, noted⟩, turns⟩ := answered
    refine ⟨.next ⟨expected, noted⟩ ran, ?_⟩
    cases r with
    | report notice => exact ⟨calls, by rw [asked, noted]; rfl, .told turns leads⟩
    | _ => exact ⟨_ :: calls, by rw [asked, noted]; exact List.append_assoc .., .asked turns leads⟩

namespace Leads

variable {before after : Links} {first second calls : List Exchange} {session : Session}

theorem split (leads : Leads before (first ++ second) after) :
    ∃ between, Leads before first between ∧ Leads between second after := by
  generalize whole : first ++ second = calls at leads
  induction leads generalizing first with
  | refl links =>
    obtain ⟨rfl, rfl⟩ := List.append_eq_nil_iff.mp whole
    exact ⟨links, .refl _, .refl _⟩
  | told turns _ ih =>
    obtain ⟨between, leads, later⟩ := ih whole
    exact ⟨between, .told turns leads, later⟩
  | asked turns later ih =>
    cases first with
    | nil =>
      obtain rfl : second = _ := whole
      exact ⟨_, .refl _, .asked turns later⟩
    | cons e first =>
      obtain ⟨rfl, rest⟩ := List.cons.inj whole
      obtain ⟨between, leads, later⟩ := ih rest
      exact ⟨between, .asked turns leads, later⟩

theorem age_le (leads : Leads before calls after) :
    (before session).age ≤ (after session).age := by
  induction leads with
  | refl => exact le_refl _
  | told turns _ ih | asked turns _ ih => exact turns.age_le.trans ih

theorem ended {result : Except ForwardFault Unit} (leads : Leads before calls after)
    (finished : before session = .ended result) : after session = .ended result := by
  induction leads with
  | refl => exact finished
  | told turns _ ih | asked turns _ ih => exact ih (turns.ended finished)

/-- Before the first exchange something may have been told. -/
theorem head {e : Exchange} (leads : Leads before (e :: calls) after) :
    ∃ between next : Links, (∀ session, (before session).age ≤ (between session).age) ∧
      e.Turns between next ∧ Leads next calls after := by
  generalize whole : e :: calls = all at leads
  induction leads with
  | refl => cases whole
  | told turns _ ih =>
    obtain ⟨between, next, aged, rest⟩ := ih whole
    exact ⟨between, next, fun session => turns.age_le.trans (aged session), rest⟩
  | asked turns later =>
    obtain ⟨rfl, rfl⟩ := List.cons.inj whole
    exact ⟨_, _, fun _ => le_refl _, turns, later⟩

theorem connected (leads : Leads before calls after)
    (opened : session ∈ calls.filterMap Exchange.connected) : 1 ≤ (after session).age := by
  obtain ⟨e, member, opens⟩ := List.mem_filterMap.mp opened
  obtain ⟨first, second, rfl⟩ := List.append_of_mem member
  obtain ⟨_, -, leads⟩ := leads.split
  obtain ⟨_, _, -, turns, later⟩ := leads.head
  match e, opens with
  | ⟨.connect _, .ok _⟩, rfl => exact turns.connected.trans later.age_le

/-- A session that was connected, forwarded something and was then closed has ended. -/
theorem closed {remotePort localPort : UInt16} {reply : Except ForwardFault Unit}
    (leads : Leads before (first ++ ⟨.forward session remotePort localPort, ()⟩ ::
      (second ++ ⟨.close session, reply⟩ :: calls)) after)
    (opened : session ∈ first.filterMap Exchange.connected) : after session = .ended reply := by
  obtain ⟨_, connects, leads⟩ := leads.split
  obtain ⟨_, _, aged, forwards, leads⟩ := leads.head
  have started := forwards.forwarded ((connects.connected opened).trans (aged session))
  obtain ⟨_, waits, leads⟩ := leads.split
  obtain ⟨_, _, aged, closes, later⟩ := leads.head
  exact later.ended (closes.closed ((started.trans waits.age_le).trans (aged session)))

/-- Every session that came into use was connected. -/
theorem used (leads : Leads before calls after) (unused : before session = .unused)
    (used : after session ≠ .unused) : session ∈ calls.filterMap Exchange.connected := by
  induction leads with
  | refl => exact absurd unused used
  | @told _ _ between _ _ turns _ ih =>
    by_cases still : between session = .unused
    · exact ih still used
    · cases turns.used unused still
  | @asked e _ between _ calls turns _ ih =>
    by_cases still : between session = .unused
    · have later := ih still used
      cases opened : e.connected with
      | none => rwa [List.filterMap_cons_none opened]
      | some other =>
        rw [List.filterMap_cons_some opened]
        exact List.mem_cons_of_mem _ later
    · rw [List.filterMap_cons_some (turns.used unused still)]
      exact List.mem_cons_self ..

end Leads

end Reconciler
