import FuturesDesk.Http.Header
import FuturesDesk.Text.Quoted

/-!
# Connections to the bus

The settings of a connection, and what is written and passed on while it is
open. One task waits for the intervals at which the connection is to be kept
alive; a frame is written for that once the task ends.
-/

namespace FuturesDesk.Feed.Wire

inductive KeepAlive where
  | text (s : String)
  | ping

structure Settings where
  url : String
  /-- Texts to send after every connect, asked for each time. -/
  replay : Option (List String) := none
  headers : List (String × String) := []
  /-- In milliseconds. -/
  pingInterval : Option Nat := none
  keepAlive : Option KeepAlive := none
  id : Nat := 0

/-- Decimal digits of a fraction in thousandths, without zeros at the end. -/
def thousandths (n : Nat) : List Char :=
  let digits := (toString (1000 + n)).toList.drop 1
  (digits.reverse.dropWhile (· = '0')).reverse

/-- A span of time given in milliseconds, in seconds from one second on. -/
def spanText (ms : Nat) : String :=
  if ms = 0 then "0ns"
  else if ms < 1000 then toString ms ++ "ms"
  else
    let fraction := thousandths (ms % 1000)
    toString (ms / 1000) ++ (if fraction.isEmpty then "" else "." ++ String.ofList fraction) ++ "s"

namespace Settings

def intervalText : Option Nat → String
  | none => "None"
  | some ms => "Some(" ++ spanText ms ++ ")"

/-- The settings in one line; what is secret or long is left out. -/
def text (s : Settings) : String :=
  "WsConnConfig \x7b url: " ++ Quoted.quote s.url ++ ", resubscribe: " ++ toString s.replay.isSome ++
    ", ping_interval: " ++ intervalText s.pingInterval ++ ", id: " ++ toString s.id ++ " \x7d"

/-- Whether a connection can be asked for with these headers. -/
def isValid (s : Settings) : Bool := s.headers.all fun h => Http.isHeaderName h.1 && Http.isHeaderValue h.2

/-- What keeps a connection alive; without a text it is a ping. -/
def payload (s : Settings) : KeepAlive := s.keepAlive.getD .ping

end Settings

/-! ## An open connection -/

inductive Event where
  /-- The interval for keeping it alive has passed, or begins. -/
  | interval
  | text (s : String)
  | ping (data : ByteArray)
  | pong
  | binary
  | outbound (s : String)

inductive Written where
  | text (s : String)
  | pong (data : ByteArray)
  | keepAlive (k : KeepAlive)

/-- Where the task that waits for the intervals stands. -/
inductive Watch where
  /-- There is no interval to wait for. -/
  | off
  /-- It waits for the first interval, which begins at once. -/
  | first
  /-- It waits in its loop for the next one. -/
  | later

inductive Progress where
  | waits (w : Watch)
  | ends

/-- An interval: the task goes on to wait for the next. -/
def Watch.advance : Watch → Progress
  | .off => .waits .off
  | .first => .waits .later
  | .later => .waits .later

structure Connection where
  watch : Watch := .off
  written : List Written := []
  /-- The texts passed on, oldest first, each with the id of the connection. -/
  received : List (Nat × String) := []

namespace Connection

/-- A connection just made: what is to be replayed has been written. -/
def opened (s : Settings) : Connection where
  watch := if s.pingInterval.isSome then .first else .off
  written := (s.replay.getD []).map .text

def write (c : Connection) (w : Written) : Connection := { c with written := c.written ++ [w] }

def step (s : Settings) (c : Connection) : Event → Connection
  | .interval =>
    match c.watch.advance with
    | .waits watch => { c with watch }
    | .ends => c.write (.keepAlive s.payload)
  | .text t => { c with received := c.received ++ [(s.id, t)] }
  | .ping data => c.write (.pong data)
  | .outbound t => c.write (.text t)
  | .pong | .binary => c

def run (s : Settings) (events : List Event) : Connection := events.foldl (step s) (opened s)

end Connection

def written (s : Settings) (events : List Event) : List Written := (Connection.run s events).written

def received (s : Settings) (events : List Event) : List (Nat × String) := (Connection.run s events).received

end FuturesDesk.Feed.Wire
