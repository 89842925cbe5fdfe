import FuturesDesk.Desk.Event
import FuturesDesk.Desk.Registry
import FuturesDesk.Market.Basic

/-!
# Assist traders

A trader closes the position of one filled primary order. It watches ticks for
its trigger, places one closing order at a time, and starts over where such an
order ends without a fill. It is done once its closing orders have filled the
quantity of the primary order.
-/

namespace FuturesDesk

/-- What a session shares with its traders. -/
structure Floor where
  registry : Registry
  bus : Bus DeskEvent := ⟨0, []⟩

namespace Floor

def publish (f : Floor) (e : DeskEvent) : Floor := { f with bus := f.bus.publish e }

end Floor

namespace Trader

inductive Phase where
  /-- No tick seen yet. -/
  | armed
  /-- Watching ticks for the trigger. -/
  | idle
  /-- A closing order is out. -/
  | ordered
  | done
deriving DecidableEq, Repr

end Trader

structure Trader where
  /-- The filled primary order, its trade time the time of the fill. -/
  target : AssistTarget
  /-- The mailbox of the trader on the bus. -/
  inbox : Nat
  /-- The closing orders placed so far. -/
  closing : Table Order := ∅
  /-- The closing order that has not ended yet. -/
  waiting : Option String := none
  phase : Trader.Phase := .armed

namespace Trader

def primary (t : Trader) : Order := t.target.order

/-- A trader for a target, with a mailbox of its own. -/
def start (f : Floor) (target : AssistTarget) : Trader × Floor :=
  let (bus, inbox) := f.bus.subscribe
  ({ target, inbox }, { f with bus })

/-! ## Trigger -/

/-- The price has left the band around the fill. A zero offset leaves its side
open, and for a short position the sides are exchanged. -/
def balanceHit (o : Order) (a : Automation) (t : Tick) : Bool :=
  if o.isLong then
    (0 < a.balanceLow && t.close < o.price - a.balanceLow) || (0 < a.balanceHigh && o.price + a.balanceHigh < t.close)
  else
    (0 < a.balanceLow && o.price + a.balanceLow < t.close) || (0 < a.balanceHigh && t.close < o.price - a.balanceHigh)

/-- More time than the period has passed since the fill. -/
def periodElapsed (o : Order) (a : Automation) (t : Tick) : Bool :=
  a.periodMillis < (Clock.saturatingSub t.time (Clock.signed o.tradeTime)).toInt.toNat

def shouldFire (t : Trader) (tick : Tick) : Bool :=
  let o := t.primary
  let a := t.target.option
  match a.kind with
  | .byBalance => balanceHit o a tick
  | .byTimePeriod => periodElapsed o a tick
  | .byTimePeriodAndBalance => balanceHit o a tick || periodElapsed o a tick

/-! ## Closing orders -/

def filledQuantity (t : Trader) : Int64 :=
  ((t.closing.values.filter (·.status = .filled)).map (·.quantity)).sum

/-- The order that closes what is left at the price of a tick. -/
def closingOrder (t : Trader) (tick : Tick) : Order where
  group := t.primary.group
  code := t.primary.code
  action := t.primary.action.opposite
  price := tick.close
  quantity := t.primary.quantity - t.filledQuantity

/-- Takes the new status and price of a closing order. The trader stops
waiting for it once it has ended. -/
def hear (t : Trader) (o : Order) : Trader :=
  match t.closing.find? o.id with
  | none => t
  | some leg =>
    let t := { t with closing := t.closing.insert o.id { leg with status := o.status, price := o.price } }
    if t.waiting = some o.id && !o.status.isCancellable then
      { t with waiting := none, phase := if t.phase = .done then .done else .idle }
    else t

def hearEvent (t : Trader) : DeskEvent → Trader
  | .orderStatus o => t.hear o
  | _ => t

/-- Whether the closing orders have filled the quantity of the primary. -/
def isCovered (t : Trader) : Bool := t.primary.quantity ≤ t.filledQuantity

/-- A trader that is covered leaves the bus and says so, once. -/
def finish (t : Trader) (f : Floor) : Trader × Floor :=
  if t.phase ≠ .done && t.isCovered then
    ({ t with phase := .done }, { f with bus := (f.bus.leave t.inbox).publish (.assistDone t.primary.id) })
  else (t, f)

def drain (t : Trader) (f : Floor) : Trader × Floor :=
  let (bus, events) := f.bus.takeAll t.inbox
  (events.foldl hearEvent t, { f with bus })

/-- The first part of a tick: what happened since the last one. -/
def catchUp (t : Trader) (f : Floor) : Trader × Floor :=
  let (t, f) := t.drain f
  t.finish f

/-- Whether the trader is free to place an order. -/
def isFree (t : Trader) : Bool := t.phase ≠ .done && t.waiting.isNone

/-- The order to submit at a tick. -/
def order? (t : Trader) (tick : Tick) : Option Order :=
  if t.isFree && t.shouldFire tick then some (t.closingOrder tick) else none

/-- The order a tick will make the trader submit, once it has caught up. -/
def submission? (t : Trader) (f : Floor) (tick : Tick) : Option Order := (t.catchUp f).1.order? tick

/-- The first tick takes an armed trader to its watch. -/
def watch (t : Trader) : Trader := if t.isFree && t.phase = .armed then { t with phase := .idle } else t

/-- Places a closing order and publishes what came of it. -/
def submit (t : Trader) (f : Floor) (now : UInt64) (o : Order) (answer : Answer) : Trader × Floor × Option Order :=
  let p := f.registry.place now o answer
  let f := { f with registry := p.registry }
  match p.result with
  | .ok _ =>
    ({ t with closing := t.closing.insert p.order.id p.order, waiting := some p.order.id, phase := .ordered },
      f.publish (.placed p.order), some p.order)
  | .error fault =>
    ({ t with phase := .idle }, f.publish (.assistFailed t.primary.id fault.message), none)

/-- One tick, with the answer to the order it may submit; the order placed. -/
def onTick (t : Trader) (f : Floor) (now : UInt64) (tick : Tick) (answer : Answer) : Trader × Floor × Option Order :=
  let (t, f) := t.catchUp f
  match t.order? tick with
  | none => (t.watch, f, none)
  | some o => t.watch.submit f now o answer

/-- One event taken between ticks. -/
def onEvent (t : Trader) (f : Floor) (e : DeskEvent) : Trader × Floor :=
  match e with
  | .orderStatus o => (t.hear o).finish f
  | _ => (t, f)

end Trader

end FuturesDesk
