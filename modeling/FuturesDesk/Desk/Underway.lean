import FuturesDesk.Desk.Session

/-!
# Sessions underway

A session waits for the brokerage at every unit of a command and at every cancel
of a sweep, and everything else goes on meanwhile. Here a session may have a
command and a sweep in hand, and a move is what happens between two waits. Only
the orders of its traders are still placed in one step each.
-/

namespace FuturesDesk

structure Underway where
  session : Session
  /-- The units still to be sent, each as the command it belongs to. -/
  units : List Command := []
  /-- The orders that the sweep in hand has marked and not asked to cancel yet. -/
  cancels : List String := []
  /-- What has come of that sweep so far. -/
  events : List SweepEvent := []

/-- A session with nothing in hand. -/
def Session.atRest (s : Session) : Underway := { session := s }

namespace Underway

/-- Reads a text of the client, who is not listened to while a command is in
hand. -/
def read (u : Underway) (now : UInt64) (t : String) : Underway :=
  if !u.units.isEmpty then u
  else if t = Session.ping then { u with session := u.session.push .pong }
  else match Command.ofText t with
    | .error flaw => { u with session := u.session.sendError .decodeFailed flaw.fault.message }
    | .ok c =>
      match (u.session.admission now).refusal? c with
      | some r => { u with session := u.session.sendError r.code r.reason }
      | none => { u with units := List.replicate (Session.unitCount c) c }

def unit (u : Underway) (now : UInt64) (ticket : Ticket) : Underway :=
  match u.units with
  | [] => u
  | c :: units => { u with session := (u.session.placeUnit now c ticket).1, units }

/-- Tells the client of a sweep without cancels left. -/
def report (u : Underway) : Underway :=
  if u.cancels.isEmpty then
    { u with session := (u.events.filterMap SweepEvent.frame?).foldl Session.push u.session, events := [] }
  else u

/-- Begins a sweep, unless one is in hand: all overdue orders are marked at
once. -/
def sweep (u : Underway) (now : UInt64) : Underway :=
  if !u.cancels.isEmpty then u
  else
    let r := u.session.registry
    let ids := r.evict.overdue now
    report { u with
      session := u.session.setRegistry (ids.foldl Registry.mark r.evict)
      cancels := ids
      events := r.ended.map .evicted }

def cancel (u : Underway) (answer : Answer) : Underway :=
  match u.cancels with
  | [] => u
  | id :: cancels =>
    let (r, e) := u.session.registry.settle id answer
    report { u with session := u.session.setRegistry r, cancels, events := u.events ++ [e] }

inductive Move where
  | read (now : UInt64) (t : String)
  | unit (now : UInt64) (ticket : Ticket)
  | sweep (now : UInt64)
  | cancel (answer : Answer)
  /-- A step other than a text and a sweep. -/
  | whole (st : Session.Step)

def move (u : Underway) : Move → Underway
  | .read now t => u.read now t
  | .unit now ticket => u.unit now ticket
  | .sweep now => u.sweep now
  | .cancel answer => u.cancel answer
  | .whole (.text ..) | .whole (.supervise ..) => u
  | .whole st => { u with session := u.session.step st }

def run (u : Underway) (moves : List Move) : Underway := moves.foldl move u

end Underway

end FuturesDesk
