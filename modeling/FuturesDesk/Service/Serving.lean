import FuturesDesk.Feed.Line

/-!
# Serving a connection

A connection subscribes to ticks and to status updates, is served, and gives
its subscriptions up when it ends. A failed subscription ends it at once.
-/

namespace FuturesDesk.Service

/-- When the line to the bus closes while a connection is set up. -/
inductive Closing where
  | never
  | beforeTicks
  | beforeOrders

def closeIf (b : Bool) (l : Feed.Line) : Feed.Line := if b then l.close else l

/-- The line after a connection was served, however the client's side ended. -/
def serve (l : Feed.Line) (connId code : String) (closing : Closing) : Feed.Line :=
  match (closeIf (closing matches .beforeTicks) l).subscribeTicks connId code with
  | (l, .error _) => l
  | (l, .ok ticks) =>
    match (closeIf (closing matches .beforeOrders) l).subscribeOrders connId with
    | (l, .error _) => { l with hub := l.hub.dropTicks ticks }
    | (l, .ok orders) =>
      let l := l.unsubscribe connId
      { l with hub := (l.hub.dropTicks ticks).dropOrders orders }

/-! ## Step by step -/

/-- What comes from the client's side: a frame, or an end of it. -/
inductive Incoming where
  | text (text : String)
  /-- A frame of another kind, which is ignored. -/
  | other
  | closed
  | ended
  | failed
  | shutdown

def Incoming.isEnd : Incoming → Bool
  | .text _ | .other => false
  | .closed | .ended | .failed | .shutdown => true

/-- How far a connection is, with its receivers. -/
inductive Phase where
  | accepted
  | hearing (ticks : Nat)
  | serving (ticks orders : Nat)
  /-- The client's side has ended, the tasks have not. -/
  | leaving (ticks orders : Nat)
  | left
  /-- With the chain of what went wrong, the outermost first. -/
  | returned (result : Except (List String) Unit)

structure Connection where
  id : String
  code : String
  line : Feed.Line
  phase : Phase := .accepted

namespace Connection

/-- The next thing a connection does by itself. -/
def proceed (c : Connection) : Connection :=
  match c.phase with
  | .accepted =>
    match c.line.subscribeTicks c.id c.code with
    | (line, .ok n) => { c with line, phase := .hearing n }
    | (line, .error f) =>
      { c with line, phase := .returned (.error ["tick subscription for " ++ c.code ++ " failed", f.message]) }
  | .hearing n =>
    match c.line.subscribeOrders c.id with
    | (line, .ok m) => { c with line, phase := .serving n m }
    | (line, .error f) =>
      { c with
        line := { line with hub := line.hub.dropTicks n }
        phase := .returned (.error ["order status subscription failed", f.message]) }
  | .leaving n m =>
    { c with line := { c.line with hub := (c.line.hub.dropTicks n).dropOrders m }, phase := .left }
  | .left => { c with line := c.line.unsubscribe c.id, phase := .returned (.ok ()) }
  | .serving .. | .returned _ => c

def hear (c : Connection) (i : Incoming) : Connection :=
  match c.phase with
  | .serving n m => if i.isEnd then { c with phase := .leaving n m } else c
  | _ => c

/-- One thing that happens while a connection is served. The line is shared. -/
inductive Turn where
  | own
  | incoming (i : Incoming)
  | beside (st : Feed.Line.Step)
  | close

def turn (c : Connection) : Turn → Connection
  | .own => c.proceed
  | .incoming i => c.hear i
  | .beside st => { c with line := c.line.step st }
  | .close => { c with line := c.line.close }

def run (c : Connection) (turns : List Turn) : Connection := turns.foldl turn c

end Connection

end FuturesDesk.Service
