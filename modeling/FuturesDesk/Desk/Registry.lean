import FuturesDesk.Clock
import FuturesDesk.Fault
import FuturesDesk.Order.Basic
import FuturesDesk.Table

/-!
# Order registry

The accepted orders of a session, from their placement until they are found
ended. A cancel that is not answered yet is marked, and the order's trade time
is zero in the meantime; the next update for the order sets it again.
-/

namespace FuturesDesk

/-- How long an order may stay live before it is cancelled, in milliseconds. -/
structure Deadlines where
  opening : Nat
  closing : Nat

def Deadlines.forOrder (d : Deadlines) (o : Order) : Nat := if o.action.isOpening then d.opening else d.closing

/-- Why a reply to a placement accepts nothing. -/
def Reply.refusal? (r : Reply) : Option String :=
  if r.isError then some r.error
  else if r.orderId.isEmpty || r.status = .failed then
    some ("gateway answered " ++ r.status.name ++ " without an order id")
  else none

namespace Order

/-- The order as a reply accepts it. An accepted order of unknown status is on
its way. -/
def accepted (o : Order) (r : Reply) (now : UInt64) : Order :=
  { o with
    id := r.orderId
    status := if r.status = .unknown then .pendingSubmit else r.status
    orderTime := r.orderTime
    tradeTime := now }

/-- An update is heard if its status is known and no step back. -/
def hears (o : Order) (u : StatusUpdate) : Bool := u.status ≠ .unknown && o.status.rank ≤ u.status.rank

/-- The trade time set again, if it was zero. -/
def rearmed (o : Order) (now : UInt64) : Order := if o.tradeTime = 0 then { o with tradeTime := now } else o

/-- Whether an update changes the status: an ended order stays as it ended. -/
def changesBy (o : Order) (u : StatusUpdate) : Bool := o.status ≠ u.status && !o.status.isTerminal

/-- The order with the status of an update, its time if given, and its price
if it is the price of a fill. -/
def updated (o : Order) (u : StatusUpdate) : Order :=
  { o with
    status := u.status
    orderTime := if u.orderTime = 0 then o.orderTime else u.orderTime
    price := match u.price with
      | some p => if u.status = .filled || u.status = .partFilled then p else o.price
      | none => o.price }

end Order

/-- A question to the brokerage, with its answer. -/
inductive Call where
  /-- The order as it was sent. -/
  | submit (o : Order) (answer : Answer)
  | cancel (id : String) (answer : Answer)

structure Registry where
  deadlines : Deadlines
  orders : Table Order := ∅
  /-- Orders with a cancel that is not answered yet. -/
  marks : IdSet := ∅
  /-- All that the brokerage was asked, oldest first. -/
  journal : List Call := []

/-- What a placement comes to. -/
structure Placement where
  registry : Registry
  /-- The order after the answer: accepted, or failed. -/
  order : Order
  result : Except Fault Reply

namespace Registry

def noteCall (r : Registry) (c : Call) : Registry := { r with journal := r.journal ++ [c] }

/-- Tracks an order; one without an id is ignored. -/
def record (r : Registry) (o : Order) : Registry :=
  if o.isAccepted then { r with orders := r.orders.insert o.id o } else r

/-- Takes the brokerage's answer to an order. A failed order is not tracked. -/
def place (r : Registry) (now : UInt64) (o : Order) (answer : Answer) : Placement :=
  let r := r.noteCall (.submit o answer)
  match answer with
  | .failure reason => ⟨r, { o with status := .failed }, .error (.gateway reason)⟩
  | .reply reply =>
    match reply.refusal? with
    | some reason => ⟨r, { o with status := .failed }, .error (.gateway reason)⟩
    | none =>
      let o := o.accepted reply now
      ⟨r.record o, o, .ok reply⟩

def lookup (r : Registry) (id : String) : Option Order := r.orders.find? id

def remove (r : Registry) (id : String) : Registry :=
  { r with orders := r.orders.erase id, marks := r.marks.remove id }

/-- Merges an update; the merged order if its status changed. -/
def merge (r : Registry) (now : UInt64) (u : StatusUpdate) : Registry × Option Order :=
  match r.lookup u.orderId with
  | none => (r, none)
  | some o =>
    if o.hears u then
      let o := o.rearmed now
      let changed := o.changesBy u
      let o := if changed then o.updated u else o
      ({ r with orders := r.orders.insert u.orderId o, marks := r.marks.remove u.orderId },
        if changed then some o else none)
    else (r, none)

end Registry

end FuturesDesk
