import FuturesDesk.Feed.Control
import FuturesDesk.Feed.Frame
import FuturesDesk.Table

/-!
# Routes of the feed

A frame goes to the connection it names, or else to every route that wants it.
A route whose receiver has gone is dropped when something is sent over it. The
routes are also what is asked of the bus after every connect.
-/

namespace FuturesDesk.Feed

/-- The end of a route, with what it has received. -/
structure Receiver (α : Type) where
  alive : Bool := true
  items : List α := []

/-- A route for the ticks of one instrument; the receiver is given by number. -/
structure TickRoute where
  code : String
  receiver : Nat

structure Hub where
  ticks : Table TickRoute := ∅
  orders : Table Nat := ∅
  tickReceivers : List (Receiver Tick) := []
  orderReceivers : List (Receiver StatusUpdate) := []

namespace Receiver

variable {α : Type}

def isAlive (rs : List (Receiver α)) (n : Nat) : Bool := (rs[n]?).any (·.alive)

/-- Delivers to those receivers of the given numbers that are alive. -/
def deliver (rs : List (Receiver α)) (ns : List Nat) (a : α) : List (Receiver α) :=
  rs.mapIdx fun n r => if ns.contains n && r.alive then { r with items := r.items ++ [a] } else r

def drop (rs : List (Receiver α)) (n : Nat) : List (Receiver α) :=
  rs.mapIdx fun k r => if k = n then { r with alive := false } else r

end Receiver

namespace Hub

/-- Whether a tick is for a route: the frame names its connection, or it names
none and the instrument is the one subscribed. -/
def wantsTick (connId : Option String) (t : Tick) (id : String) (r : TickRoute) : Bool :=
  match connId with
  | some c => id == c
  | none => r.code == t.code

def dispatchTick (h : Hub) (connId : Option String) (t : Tick) : Hub :=
  let wants := wantsTick connId t
  { h with
    ticks := h.ticks.filter fun id r => !wants id r || Receiver.isAlive h.tickReceivers r.receiver
    tickReceivers := Receiver.deliver h.tickReceivers ((h.ticks.filter wants).values.map (·.receiver)) t }

def wantsStatus (connId : Option String) (id : String) (_ : Nat) : Bool :=
  match connId with
  | some c => id == c
  | none => true

def dispatchStatus (h : Hub) (connId : Option String) (u : StatusUpdate) : Hub :=
  let wants := wantsStatus connId
  { h with
    orders := h.orders.filter fun id n => !wants id n || Receiver.isAlive h.orderReceivers n
    orderReceivers := Receiver.deliver h.orderReceivers (h.orders.filter wants).values u }

def dispatch (h : Hub) (f : Frame) : Hub :=
  match f.payload with
  | .tick t => h.dispatchTick f.connId t
  | .status u => h.dispatchStatus f.connId u

/-- One text of the bus; what is no data frame is ignored. -/
def receive (h : Hub) (text : String) : Hub :=
  match Frame.ofText? text with
  | some f => h.dispatch f
  | none => h

/-- A route for ticks, in the place of one already there; its receiver. -/
def addTicks (h : Hub) (id code : String) : Hub × Nat :=
  let n := h.tickReceivers.length
  ({ h with ticks := h.ticks.insert id ⟨code, n⟩, tickReceivers := h.tickReceivers ++ [{}] }, n)

/-- A route for status updates, in the place of one already there; its
receiver. -/
def addOrders (h : Hub) (id : String) : Hub × Nat :=
  let n := h.orderReceivers.length
  ({ h with orders := h.orders.insert id n, orderReceivers := h.orderReceivers ++ [{}] }, n)

def has (h : Hub) (id : String) : Bool := h.ticks.contains id || h.orders.contains id

/-- Takes both routes of a connection away. -/
def remove (h : Hub) (id : String) : Hub := { h with ticks := h.ticks.erase id, orders := h.orders.erase id }

def dropTicks (h : Hub) (n : Nat) : Hub := { h with tickReceivers := Receiver.drop h.tickReceivers n }

def dropOrders (h : Hub) (n : Nat) : Hub := { h with orderReceivers := Receiver.drop h.orderReceivers n }

/-- What the routes ask of the bus. -/
def controls (h : Hub) : List Control :=
  h.ticks.entries.map (fun e => .subscribeTicks e.1 e.2.code) ++ h.orders.ids.map .subscribeOrders

end Hub

end FuturesDesk.Feed
