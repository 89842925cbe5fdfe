import FuturesDesk.Fault
import FuturesDesk.Feed.Hub

/-!
# The line to the bus

Subscriptions change the routes at once and are queued for the bus. Every new
connection begins with what the routes ask; queued frames follow as they can be
written. A frame whose writing fails is lost, and with it the connection.
-/

namespace FuturesDesk.Feed

structure Line where
  hub : Hub := {}
  /-- Frames waiting to be written, oldest first. -/
  queue : List Control := []
  /-- What was written on the present connection, if there is one. -/
  written : Option (List Control) := none
  /-- All frames ever queued, oldest first. -/
  log : List Control := []
  /-- Frames are still taken. -/
  isOpen : Bool := true

namespace Line

def closedFault : Fault := .feed "bus connection closed"

/-- Queues a frame; refused once the line is closed. -/
def post (l : Line) (c : Control) : Line × Except Fault Unit :=
  if l.isOpen then ({ l with queue := l.queue ++ [c], log := l.log ++ [c] }, .ok ())
  else (l, .error closedFault)

/-- Subscribes a connection to the ticks of an instrument. The route is made
before the frame is queued, and stays without its receiver where that fails. -/
def subscribeTicks (l : Line) (id code : String) : Line × Except Fault Nat :=
  let (hub, n) := l.hub.addTicks id code
  match { l with hub }.post (.subscribeTicks id code) with
  | (l, .ok _) => (l, .ok n)
  | (l, .error f) => ({ l with hub := l.hub.dropTicks n }, .error f)

/-- Subscribes a connection to status updates, in the same order. -/
def subscribeOrders (l : Line) (id : String) : Line × Except Fault Nat :=
  let (hub, n) := l.hub.addOrders id
  match { l with hub }.post (.subscribeOrders id) with
  | (l, .ok _) => (l, .ok n)
  | (l, .error f) => ({ l with hub := l.hub.dropOrders n }, .error f)

/-- Gives up the routes of a connection. The bus is told if there were any. -/
def unsubscribe (l : Line) (id : String) : Line :=
  if l.hub.has id then ({ l with hub := l.hub.remove id }.post (.unsubscribe id)).1 else l

def receive (l : Line) (text : String) : Line := { l with hub := l.hub.receive text }

def connect (l : Line) : Line := { l with written := some l.hub.controls }

def lose (l : Line) : Line := { l with written := none }

def write (l : Line) : Line :=
  match l.queue, l.written with
  | c :: queue, some written => { l with queue, written := some (written ++ [c]) }
  | _, _ => l

def failWrite (l : Line) : Line :=
  match l.queue, l.written with
  | _ :: queue, some _ => { l with queue, written := none }
  | _, _ => l

def flush (l : Line) : Line :=
  match l.written with
  | some written => { l with queue := [], written := some (written ++ l.queue) }
  | none => l

def close (l : Line) : Line := { l with isOpen := false, written := none }

/-! ## What the bus understands -/

/-- The subscriptions a bus holds after the frames of a connection. -/
structure Subscribed where
  ticks : Table String := ∅
  orders : IdSet := ∅

def Subscribed.apply (u : Subscribed) : Control → Subscribed
  | .subscribeTicks id code => { u with ticks := u.ticks.insert id code }
  | .subscribeOrders id => { u with orders := u.orders.add id }
  | .unsubscribe id => { ticks := u.ticks.erase id, orders := u.orders.remove id }

def Subscribed.ofFrames (cs : List Control) : Subscribed := cs.foldl Subscribed.apply {}

/-! ## Steps -/

/-- Everything that can happen to a line. -/
inductive Step where
  | subscribeTicks (id code : String)
  | subscribeOrders (id : String)
  | unsubscribe (id : String)
  | receive (text : String)
  | dropTicks (n : Nat)
  | dropOrders (n : Nat)
  | connect
  | lose
  | write
  | failWrite

def step (l : Line) : Step → Line
  | .subscribeTicks id code => (l.subscribeTicks id code).1
  | .subscribeOrders id => (l.subscribeOrders id).1
  | .unsubscribe id => l.unsubscribe id
  | .receive text => l.receive text
  | .dropTicks n => { l with hub := l.hub.dropTicks n }
  | .dropOrders n => { l with hub := l.hub.dropOrders n }
  | .connect => l.connect
  | .lose => l.lose
  | .write => l.write
  | .failWrite => l.failWrite

def run (l : Line) (steps : List Step) : Line := steps.foldl step l

end Line

end FuturesDesk.Feed
