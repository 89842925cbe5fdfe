import FuturesDesk.Desk.Session
import FuturesDesk.Rehearsal.Shop

/-!
# Rehearsals

A session with a rehearsal brokerage, a feed and snapshots at hand, and a clock
that moves when told. Whatever is at work runs until all of it waits.
-/

namespace FuturesDesk.Rehearsal

/-- The data of snapshots; none where the call fails. -/
structure Snapshots where
  index : Option TradeIndex
  positions : Option (List Position)
  bars : Option (List Bar)

def Snapshots.standard : Snapshots where
  index := some { tse := { price := 17500 } }
  positions := some [⟨"MXFL1", Action.buy.name, 1, 17800, 17810, 500⟩]
  bars := some [⟨1, 17800, 17810, 17790, 17805, 12⟩]

/-- What a session does at fixed periods. -/
inductive Chore where
  | index | positions | bars
  /-- Pruning, then promotion. -/
  | housekeeping
  | supervision

/-- A chore with its period and the time it is next due, in milliseconds. -/
structure Timer where
  chore : Chore
  period : Nat
  due : Nat

/-- A feed's route to a session. -/
inductive Route where
  | absent
  | live
  /-- The receiver has gone. -/
  | dead
deriving DecidableEq

namespace Route

/-- The route after something was sent over it: a dead one is dropped. -/
def swept : Route → Route
  | .live => .live
  | .absent | .dead => .absent

/-- The route after its receiver has gone. -/
def abandoned : Route → Route
  | .live | .dead => .dead
  | .absent => .absent

/-- How many receivers it reaches. -/
def reach : Route → Nat
  | .live => 1
  | .absent | .dead => 0

end Route

structure Stage where
  session : Session
  brokerage : Brokerage := {}
  snapshots : Snapshots := .standard
  clock : UInt64
  /-- How many groups were given an id. -/
  groups : Nat := 0
  /-- The time of the timers. -/
  elapsed : Nat := 0
  timers : List Timer := []
  tickRoute : Route := .absent
  statusRoute : Route := .absent
  /-- New subscriptions are refused. -/
  refusing : Bool := false
  /-- The tasks started so far. -/
  tasks : Nat := 0
  stopped : Bool := false
  /-- The sessions that gave up their subscriptions. -/
  released : List String := []

namespace Stage

def setSession (s : Stage) (session : Session) : Stage := { s with session }

/-! ## Work until all wait -/

def hasEvent (s : Stage) (inbox : Nat) : Bool := !(s.session.floor.bus.queued inbox).isEmpty

/-- Whether a worker has a tick to take or a closed queue to leave. -/
def hasTick (w : Worker) : Bool := !w.ticks.isEmpty || !w.fed

/-- A trader takes its next tick; the brokerage answers what it submits. -/
def traderTick (s : Stage) (inbox : Nat) : Stage :=
  match s.session.submission? inbox with
  | none => s.setSession (s.session.traderTick inbox s.clock (.failure ""))
  | some o =>
    let (answer, brokerage) := s.brokerage.place s.clock o
    { s with brokerage, session := s.session.traderTick inbox s.clock answer }

/-- The next move of what is at work, if anything need not wait. -/
def next? (s : Stage) : Option Stage :=
  match s.session.workers.find? fun w => s.hasEvent w.trader.inbox with
  | some w => some (s.setSession (s.session.traderEvent w.trader.inbox))
  | none =>
    match s.session.workers.find? hasTick with
    | some w => some (s.traderTick w.trader.inbox)
    | none =>
      match s.session.relays.find? s.hasEvent with
      | some inbox => some (s.setSession (s.session.relay inbox))
      | none => none

def total {α : Type} (count : α → Nat) (xs : List α) : Nat := xs.foldl (fun n x => n + count x) 0

/-- More moves than there can be: every tick, event and worker is used up once,
and adds at most one event to each mailbox. -/
def moves (s : Stage) : Nat :=
  let ws := s.session.workers
  let ms := s.session.floor.bus.mailboxes
  (total (·.ticks.length) ws + total (·.queue.length) ms + 2 * ws.length + 1) * (ms.length + 1)

def settleIn (s : Stage) : Nat → Stage
  | 0 => s
  | n + 1 =>
    match s.next? with
    | some s => s.settleIn n
    | none => s

/-- Runs what is at work until all of it waits. After the stop what was started
since ends at once. -/
def settle (s : Stage) : Stage := if s.stopped then s.setSession s.session.stop else s.settleIn s.moves

/-! ## The client -/

def groupId (s : Stage) (k : Nat) : String := "g" ++ toString (s.groups + k + 1)

def tickets (s : Stage) (c : Command) : (Nat → Ticket) × Stage :=
  let orders := s.session.submissions s.clock c s.groupId
  let (answers, brokerage) := s.brokerage.placeAll s.clock orders
  (fun k => ⟨s.groupId k, answers.getD k (.failure "")⟩, { s with brokerage, groups := s.groups + orders.length })

def command (s : Stage) (c : Command) : Stage × Except Rejection (List Order) :=
  let (ticket, s) := s.tickets c
  let (session, result) := s.session.command s.clock c ticket
  (s.setSession session, result)

def text (s : Stage) (t : String) : Stage :=
  match Command.ofText t with
  | .ok c =>
    let (ticket, s) := s.tickets c
    s.setSession (s.session.text s.clock t ticket)
  | .error _ => s.setSession (s.session.text s.clock t fun k => ⟨s.groupId k, .failure ""⟩)

/-- Offers a tick several times; how many queues took it in all. -/
def offer (s : Stage) (t : Tick) : Nat → Stage × Nat
  | 0 => (s, 0)
  | n + 1 =>
    let k := s.session.takers
    let (s, rest) := (s.setSession (s.session.offer t)).offer t n
    (s, k + rest)

def sweep (s : Stage) (now : UInt64) : Stage × List SweepEvent :=
  let (registry, events, brokerage) := sweepWith s.brokerage s.session.registry now
  ({ s with brokerage, session := s.session.setRegistry registry }, events)

/-! ## Chores -/

def perform (s : Stage) : Chore → Stage
  | .index => s.setSession (s.session.tradeIndex s.snapshots.index)
  | .positions => s.setSession (s.session.positions s.clock s.snapshots.positions)
  | .bars => s.setSession (s.session.bars s.snapshots.bars)
  | .housekeeping => s.setSession s.session.prune.promote
  | .supervision =>
    let (answers, brokerage) := sweepAnswers s.brokerage s.session.registry s.clock
    { s with brokerage, session := s.session.supervise s.clock (answerOf answers) }

/-- How late a chore may run and still keep its times, in milliseconds. -/
def tolerance : Nat := 5

def rearm (elapsed : Nat) (t : Timer) : Timer :=
  { t with due := if t.due + tolerance < elapsed then elapsed + t.period else t.due + t.period }

/-- Performs every chore that is due, once. -/
def runDue (s : Stage) : Stage :=
  let due := s.timers.filter (·.due ≤ s.elapsed)
  let s := due.foldl (fun s t => s.perform t.chore) s
  { s with timers := s.timers.map fun t => if t.due ≤ s.elapsed then rearm s.elapsed t else t }

def shortestPeriod : Nat := 10

def chores (t : Config.Trade) : List (Chore × Nat) :=
  [(.index, t.tradeIndexIntervalSecs.toNat * 1000), (.positions, t.positionIntervalSecs.toNat * 1000),
   (.bars, t.kbarIntervalSecs.toNat * 1000), (.housekeeping, t.sweepIntervalMs.toNat),
   (.supervision, t.sweepIntervalMs.toNat)]

/-- A task for each chore, for each of the two subscriptions, and for the
relay from the bus. -/
def tasksPerStart : Nat := 8

/-- Subscribes to the feed and starts the tasks; their number, or the causes of
the failure. -/
def start (s : Stage) : Stage × Except (List String) Nat :=
  if s.refusing then
    (s, .error ["tick subscription for " ++ s.session.settings.instrumentCode ++ " failed",
      "tick subscription refused"])
  else
    let s := { s with tasks := s.tasks + tasksPerStart }
    if s.stopped then ({ s with tickRoute := .dead, statusRoute := .dead }, .ok tasksPerStart)
    else
      let timers := (chores s.session.settings).map fun (chore, period) =>
        { chore, period := max period shortestPeriod, due := s.elapsed : Timer }
      let s := { s with tickRoute := .live, statusRoute := .live, session := s.session.openRelay,
                        timers := s.timers ++ timers }
      (s.runDue, .ok tasksPerStart)

/-- Moves the clock and the timers. -/
def advance (s : Stage) (ms : Nat) : Stage :=
  { s with clock := s.clock + UInt64.ofNat ms, elapsed := s.elapsed + ms }.runDue

/-! ## The feed -/

def feedTick (s : Stage) (t : Tick) : Stage × Nat :=
  let s' := { s with tickRoute := s.tickRoute.swept }
  (if s.tickRoute = .live then s'.setSession (s'.session.tick t) else s', s.tickRoute.reach)

def feedStatus (s : Stage) (u : StatusUpdate) : Stage × Nat :=
  let s' := { s with statusRoute := s.statusRoute.swept }
  (if s.statusRoute = .live then s'.setSession (s'.session.status s.clock u) else s', s.statusRoute.reach)

def subscribers (s : Stage) : Nat := if s.tickRoute = .absent then 0 else 1

/-! ## The end -/

/-- Ends everything at work; the receivers go. -/
def stop (s : Stage) : Stage :=
  { s with
    stopped := true
    timers := []
    tickRoute := s.tickRoute.abandoned
    statusRoute := s.statusRoute.abandoned
    session := s.session.stop }

def close (s : Stage) : Stage :=
  { s with tickRoute := .absent, statusRoute := .absent, released := s.released ++ [s.session.connId] }

def collect (s : Stage) : List Frame × List Call × Stage :=
  let r := s.session.registry
  (s.session.out, r.journal, s.setSession ({ s.session with out := [] }.setRegistry { r with journal := [] }))

end Stage

end FuturesDesk.Rehearsal
