import FuturesDesk.Client.Admission
import FuturesDesk.Config.Basic
import FuturesDesk.Desk.Sweep
import FuturesDesk.Desk.Trader

/-!
# Sessions

A session serves one client. Commands become orders of one unit each; ticks go
to the client and to the traders at work; status updates are merged into the
registry and passed on. Every operation takes the time, the fresh ids and the
answers of the brokerage as arguments.

A command and a sweep wait for the brokerage between their units and between
their cancels. Here each is one step, as if nothing else happened meanwhile;
`Underway` takes them apart.
-/

namespace FuturesDesk

/-- A trader at work, with the ticks it has not looked at yet. -/
structure Worker where
  trader : Trader
  ticks : List Tick := []
  /-- The session still holds the other end of the queue. -/
  fed : Bool := true

/-- What a unit of a command is sent with and what comes of it: a fresh id for
its group, and the answer of the brokerage. -/
structure Ticket where
  group : String
  answer : Answer

structure Session where
  connId : String := "conn-1"
  settings : Config.Trade := {}
  hours : Hours := .alwaysOpen
  zone : Zone := .utc
  floor : Floor
  /-- Unassisted orders of the client that are not known to have ended. One that
  was over when it was accepted stays until the next pruning. -/
  waiting : IdSet := ∅
  /-- Assisted orders that are not filled yet. -/
  pending : Table AssistTarget := ∅
  /-- The open tick queues: the mailbox of the trader by its primary order. -/
  queues : Table Nat := ∅
  workers : List Worker := []
  /-- The mailboxes of the relays from the bus to the client. -/
  relays : List Nat := []
  /-- What was pushed to the client, oldest first. -/
  out : List Frame := []

namespace Session

/-- How many ticks a queue holds. -/
def queueCapacity : Nat := 1024

def start (connId : String) (settings : Config.Trade) (hours : Hours) (zone : Zone := .utc) : Session where
  connId
  settings
  hours
  zone
  floor := { registry := { deadlines := ⟨settings.openTimeout, settings.closeTimeout⟩ } }

def registry (s : Session) : Registry := s.floor.registry

def setRegistry (s : Session) (r : Registry) : Session := { s with floor := { s.floor with registry := r } }

def push (s : Session) (f : Frame) : Session := { s with out := s.out ++ [f] }

def send (s : Session) (m : Message) : Session := s.push (.message m)

def sendError (s : Session) (code : ErrorCode) (text : String) : Session := s.send (.error code text)

/-! ## Commands -/

def isOpenAt (s : Session) (now : UInt64) : Bool := s.hours.isOpenAt s.zone now

def admission (s : Session) (now : UInt64) : Admission where
  inTradingHours := s.isOpenAt now
  waitingOrders := s.waiting.size
  assists := s.queues.size + s.pending.size
  maxAssistQuantity := s.settings.maxAssistQuantity
  maxOrderQuantity := s.settings.maxOrderQuantity

/-- The order for a unit; every unit is a group of its own. -/
def unitOrder (c : Command) (group : String) : Order where
  group
  code := c.code
  action := c.action
  price := c.price
  quantity := 1
  manual := true

/-- Sends the next unit to the brokerage; the registry tracks it from here on. -/
def submitUnit (s : Session) (now : UInt64) (c : Command) (ticket : Ticket) : Session × Placement :=
  let p := s.registry.place now (unitOrder c ticket.group) ticket.answer
  (s.setRegistry p.registry, p)

/-- Files an accepted unit: to wait for its end, or for the fill that starts
its trader. -/
def fileUnit (s : Session) (c : Command) (o : Order) : Session :=
  let s := match c.option with
    | some option => { s with pending := s.pending.insert o.id ⟨o, option⟩ }
    | none => { s with waiting := s.waiting.add o.id }
  s.send (.order o)

def reportUnit (s : Session) (o : Order) (fault : Fault) : Session :=
  s.sendError .placeOrderFailed (o.action.name ++ " " ++ o.code ++ " " ++ plainText o.price ++ ": " ++ fault.message)

/-- One unit of a command; the order if it was accepted. -/
def placeUnit (s : Session) (now : UInt64) (c : Command) (ticket : Ticket) : Session × Option Order :=
  let (s, p) := s.submitUnit now c ticket
  match p.result with
  | .ok _ => (s.fileUnit c p.order, some p.order)
  | .error fault => (s.reportUnit p.order fault, none)

/-- The units of a command one after the other, one for each ticket. -/
def placeUnits (s : Session) (now : UInt64) (c : Command) : List Ticket → Session × List Order
  | [] => (s, [])
  | ticket :: tickets =>
    let (s, placed) := s.placeUnit now c ticket
    let (s, rest) := s.placeUnits now c tickets
    (s, placed.toList ++ rest)

def unitCount (c : Command) : Nat := c.quantity.toInt.toNat

/-- Admits a command and places its units, with a ticket for each, counted from
zero. -/
def command (s : Session) (now : UInt64) (c : Command) (ticket : Nat → Ticket) :
    Session × Except Rejection (List Order) :=
  match (s.admission now).refusal? c with
  | some r => (s.sendError r.code r.reason, .error r)
  | none =>
    let (s, orders) := s.placeUnits now c ((List.range (unitCount c)).map ticket)
    (s, .ok orders)

/-- The orders a command makes the session submit, in the groups given: none if
it is refused. -/
def submissions (s : Session) (now : UInt64) (c : Command) (group : Nat → String) : List Order :=
  if ((s.admission now).refusal? c).isSome then []
  else (List.range (unitCount c)).map fun k => unitOrder c (group k)

def ping : String := "ping"

def text (s : Session) (now : UInt64) (t : String) (ticket : Nat → Ticket) : Session :=
  if t = ping then s.push .pong
  else match Command.ofText t with
    | .ok c => (s.command now c ticket).1
    | .error flaw => s.sendError .decodeFailed flaw.fault.message

/-! ## Market data -/

/-- Whether a worker takes a tick offered to the queue of that trader. -/
def takes (inbox : Nat) (w : Worker) : Bool := w.trader.inbox == inbox && w.ticks.length < queueCapacity

/-- Offers a tick to every open queue; a full one lets it pass. -/
def offer (s : Session) (t : Tick) : Session :=
  { s with workers := s.workers.map fun w =>
      if s.queues.values.any (takes · w) then { w with ticks := w.ticks ++ [t] } else w }

/-- How many queues take a tick. -/
def takers (s : Session) : Nat :=
  (s.queues.values.filter fun inbox => s.workers.any (takes inbox)).length

def tick (s : Session) (t : Tick) : Session := (s.offer t).send (.tick t)

/-- The pending target after a change of its order. -/
def follow (now : UInt64) (o : Order) (t : AssistTarget) : AssistTarget :=
  { t with order := { t.order with
      status := o.status
      price := o.price
      tradeTime := if o.status = .filled then now else t.order.tradeTime } }

/-- Merges a status update and passes a change on. -/
def status (s : Session) (now : UInt64) (u : StatusUpdate) : Session :=
  match s.registry.merge now u with
  | (r, none) => s.setRegistry r
  | (r, some o) =>
    let s := s.setRegistry r
    let s := if o.status.isCancellable then s else { s with waiting := s.waiting.remove o.id }
    let s := { s with pending := s.pending.modify o.id (follow now o) }
    let s := s.send (.order o)
    { s with floor := s.floor.publish (.orderStatus o) }

/-! ## Housekeeping -/

/-- Whether an order is tracked and live. -/
def isLive (s : Session) (id : String) : Bool := (s.registry.lookup id).any (·.status.isCancellable)

/-- Stops waiting for orders that have ended or are gone. -/
def prune (s : Session) : Session := { s with waiting := s.waiting.filter s.isLive }

def pruned (s : Session) : Nat := s.waiting.size - s.prune.waiting.size

/-- Starts the trader of a target. A queue already open for it is closed. -/
def startAssist (s : Session) (target : AssistTarget) : Session :=
  let replaced := s.queues.find? target.order.id
  let (trader, floor) := Trader.start s.floor target
  let queues := s.queues.insert target.order.id trader.inbox
  let workers := s.workers.map fun w => if some w.trader.inbox = replaced then { w with fed := false } else w
  let s' := { s with floor, queues, workers := workers ++ [{ trader }] }
  if queues.size = 1 then s'.send (.assistStatus true) else s'

def ready (s : Session) : List AssistTarget := s.pending.values.filter (·.order.status = .filled)

/-- Starts the traders of filled targets and forgets targets that ended
otherwise. -/
def promote (s : Session) : Session :=
  s.ready.foldl startAssist { s with pending := s.pending.filter fun _ t => t.order.status.isCancellable }

/-- Closes the queue of a trader; whether it was open. -/
def release (s : Session) (primary : String) : Session × Bool :=
  match s.queues.find? primary with
  | none => (s, false)
  | some inbox =>
    let queues := s.queues.erase primary
    let workers := s.workers.map fun w => if w.trader.inbox = inbox then { w with fed := false } else w
    let s' := { s with queues, workers }
    (if queues.size = 0 then s'.send (.assistStatus false) else s', true)

def event (s : Session) : DeskEvent → Session
  | .orderStatus _ => s
  | .placed o => s.send (.order o)
  | .assistDone primary => (s.release primary).1
  | .assistFailed primary reason => s.sendError .assistOrderFailed ("assist " ++ primary ++ ": " ++ reason)

def publish (s : Session) (e : DeskEvent) : Session := { s with floor := s.floor.publish e }

/-- Sweeps the registry and tells the client of failed cancels. -/
def supervise (s : Session) (now : UInt64) (answer : String → Answer) : Session :=
  let (r, events) := s.registry.sweep now answer
  (events.filterMap SweepEvent.frame?).foldl push (s.setRegistry r)

/-! ## Snapshots -/

def tradeIndex (s : Session) (i : Option TradeIndex) : Session :=
  match i with
  | some i => s.send (.tradeIndex i)
  | none => s

/-- Positions are pushed in trading hours only. -/
def positions (s : Session) (now : UInt64) (ps : Option (List Position)) : Session :=
  if s.isOpenAt now then
    match ps with
    | some ps => s.send (.positions ps)
    | none => s
  else s

def bars (s : Session) (bs : Option (List Bar)) : Session :=
  match bs with
  | some bs => s.send (.bars bs)
  | none => s

/-! ## Relays and traders at work -/

def openRelay (s : Session) : Session :=
  let (bus, inbox) := s.floor.bus.subscribe
  { s with floor := { s.floor with bus }, relays := s.relays ++ [inbox] }

/-- A relay takes the next event of its mailbox and passes it on. -/
def relay (s : Session) (inbox : Nat) : Session :=
  if inbox ∈ s.relays then
    match s.floor.bus.take inbox with
    | (bus, .event e) => { s with floor := { s.floor with bus } }.event e
    | _ => s
  else s

def worker? (s : Session) (inbox : Nat) : Option Worker := s.workers.find? (·.trader.inbox == inbox)

def setWorker (s : Session) (w : Worker) : Session :=
  { s with workers := s.workers.map fun v => if v.trader.inbox = w.trader.inbox then w else v }

def retire (s : Session) (inbox : Nat) : Session :=
  { s with
    workers := s.workers.filter (·.trader.inbox != inbox)
    floor := { s.floor with bus := s.floor.bus.drop inbox } }

/-- Keeps a worker after it has moved, unless it is done. -/
def settleWorker (s : Session) (w : Worker) (floor : Floor) : Session :=
  let s := { s with floor }
  if w.trader.phase = .done then s.retire w.trader.inbox else s.setWorker w

/-- A trader takes the next tick of its queue. Without one it goes on waiting,
or leaves if the queue is closed. -/
def traderTick (s : Session) (inbox : Nat) (now : UInt64) (answer : Answer) : Session :=
  match s.worker? inbox with
  | none => s
  | some w =>
    match w.ticks with
    | [] => if w.fed then s else s.retire inbox
    | t :: ticks =>
      let (trader, floor, _) := w.trader.onTick s.floor now t answer
      s.settleWorker { w with trader, ticks } floor

def traderEvent (s : Session) (inbox : Nat) : Session :=
  match s.worker? inbox with
  | none => s
  | some w =>
    match s.floor.bus.take inbox with
    | (bus, .event e) =>
      let (trader, floor) := w.trader.onEvent { s.floor with bus } e
      s.settleWorker { w with trader } floor
    | _ => s

/-- The order the next tick makes a trader submit. -/
def submission? (s : Session) (inbox : Nat) : Option Order := do
  let w ← s.worker? inbox
  let t ← w.ticks.head?
  w.trader.submission? s.floor t

def stop (s : Session) : Session :=
  let s := s.workers.foldl (fun s w => s.retire w.trader.inbox) s
  { s with floor := { s.floor with bus := s.relays.foldl Bus.drop s.floor.bus }, relays := [] }

/-! ## Steps -/

/-- Everything that can happen to a session, the brokerage's answers included. -/
inductive Step where
  | text (now : UInt64) (t : String) (ticket : Nat → Ticket)
  | status (now : UInt64) (u : StatusUpdate)
  | tick (t : Tick)
  | prune
  | promote
  | supervise (now : UInt64) (answer : String → Answer)
  | release (primary : String)
  | openRelay
  | relay (inbox : Nat)
  | traderTick (inbox : Nat) (now : UInt64) (answer : Answer)
  | traderEvent (inbox : Nat)

def step (s : Session) : Step → Session
  | .text now t ticket => s.text now t ticket
  | .status now u => s.status now u
  | .tick t => s.tick t
  | .prune => s.prune
  | .promote => s.promote
  | .supervise now answer => s.supervise now answer
  | .release primary => (s.release primary).1
  | .openRelay => s.openRelay
  | .relay inbox => s.relay inbox
  | .traderTick inbox now answer => s.traderTick inbox now answer
  | .traderEvent inbox => s.traderEvent inbox

def run (s : Session) (steps : List Step) : Session := steps.foldl step s

end Session

end FuturesDesk
