import FuturesDesk.Client.Frame
import FuturesDesk.Desk.Registry

/-!
# Sweeps

A sweep drops the ended orders and cancels the overdue ones. An overdue order
is marked before its cancel is sent, and the mark goes only if that cancel
fails or an update for the order is heard.
-/

namespace FuturesDesk

inductive SweepEvent where
  /-- The order has ended and is no longer tracked. -/
  | evicted (o : Order)
  | cancelIssued (id : String)
  /-- The cancel failed; the next sweep sends another. -/
  | cancelFailed (id reason : String)

/-- What the client is told of a sweep: failed cancels. -/
def SweepEvent.frame? : SweepEvent → Option Frame
  | .cancelFailed id reason => some (.message (.error .cancelFailed ("cancel " ++ id ++ " failed: " ++ reason)))
  | .evicted _ | .cancelIssued _ => none

/-- Why an answer to a cancel is none: the order has to come back cancelled. -/
def Answer.cancelFailure? : Answer → Option String
  | .failure reason => some reason
  | .reply r =>
    if r.isError then some r.error
    else if r.status = .cancelled then none
    else some ("cancel answered " ++ r.status.name)

namespace Registry

def ended (r : Registry) : List Order := r.orders.values.filter fun o => !o.status.isCancellable

/-- The registry without the ended orders and their marks. -/
def evict (r : Registry) : Registry :=
  { r with
    orders := r.orders.filter fun _ o => o.status.isCancellable
    marks := r.marks.filter fun id => !(r.orders.find? id).any fun o => !o.status.isCancellable }

/-- Whether an order is to be cancelled: unmarked, and live for longer than
its deadline. -/
def isOverdue (r : Registry) (now : UInt64) (id : String) (o : Order) : Bool :=
  !r.marks.contains id && r.deadlines.forOrder o < Clock.elapsed o.tradeTime now

def overdue (r : Registry) (now : UInt64) : List String :=
  (r.orders.filter (r.isOverdue now)).ids

def mark (r : Registry) (id : String) : Registry :=
  { r with
    orders := r.orders.modify id fun o => { o with tradeTime := 0 }
    marks := r.marks.add id }

/-- Takes the answer to a cancel; a failed one lifts the mark. -/
def settle (r : Registry) (id : String) (answer : Answer) : Registry × SweepEvent :=
  let r := r.noteCall (.cancel id answer)
  match answer.cancelFailure? with
  | none => (r, .cancelIssued id)
  | some reason => ({ r with marks := r.marks.remove id }, .cancelFailed id reason)

def settleAll (r : Registry) (answer : String → Answer) : List String → Registry × List SweepEvent
  | [] => (r, [])
  | id :: ids =>
    let (r, e) := r.settle id (answer id)
    let (r, es) := r.settleAll answer ids
    (r, e :: es)

/-- One sweep, with the brokerage's answer to each cancel. -/
def sweep (r : Registry) (now : UInt64) (answer : String → Answer) : Registry × List SweepEvent :=
  let kept := r.evict
  let ids := kept.overdue now
  let (r', es) := (ids.foldl mark kept).settleAll answer ids
  (r', r.ended.map .evicted ++ es)

end Registry

end FuturesDesk
