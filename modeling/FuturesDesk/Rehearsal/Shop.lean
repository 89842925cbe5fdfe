import FuturesDesk.Desk.Sweep
import FuturesDesk.Desk.Trader
import FuturesDesk.Rehearsal.Brokerage

/-!
# A registry and a bus in rehearsal

A registry and a bus with a rehearsal brokerage behind them, and a clock that
stands still until it is set.
-/

namespace FuturesDesk.Rehearsal

def sweepAnswers (b : Brokerage) (r : Registry) (now : UInt64) : Table Answer × Brokerage :=
  b.cancelAll (r.evict.overdue now)

def sweepWith (b : Brokerage) (r : Registry) (now : UInt64) : Registry × List SweepEvent × Brokerage :=
  let (answers, b) := sweepAnswers b r now
  let (r, events) := r.sweep now (answerOf answers)
  (r, events, b)

structure Shop where
  floor : Floor
  brokerage : Brokerage := {}
  clock : UInt64

namespace Shop

def begin (deadlines : Deadlines) (clock : UInt64) : Shop := { floor := { registry := { deadlines } }, clock }

def registry (s : Shop) : Registry := s.floor.registry

def setRegistry (s : Shop) (r : Registry) : Shop := { s with floor := { s.floor with registry := r } }

def place (s : Shop) (o : Order) : Shop × Placement :=
  let (answer, brokerage) := s.brokerage.place s.clock o
  let p := s.registry.place s.clock o answer
  ({ s with brokerage }.setRegistry p.registry, p)

def sweep (s : Shop) (now : UInt64) : Shop × List SweepEvent :=
  let (r, events, brokerage) := sweepWith s.brokerage s.registry now
  ({ s with brokerage }.setRegistry r, events)

def publish (s : Shop) (e : DeskEvent) : Shop × Nat :=
  let floor := s.floor.publish e
  ({ s with floor }, floor.bus.count)

def tick (s : Shop) (t : Trader) (tick : Tick) : Shop × Trader × Option Order :=
  let (answer, brokerage) := match t.submission? s.floor tick with
    | some o => s.brokerage.place s.clock o
    | none => (.failure "", s.brokerage)
  let (t, floor, placed) := t.onTick s.floor s.clock tick answer
  ({ s with brokerage, floor }, t, placed)

def collect (s : Shop) : Shop × List Call :=
  (s.setRegistry { s.registry with journal := [] }, s.registry.journal)

end Shop

end FuturesDesk.Rehearsal
