import FuturesDesk.Clock
import FuturesDesk.Order.Basic
import FuturesDesk.Table

/-!
# A rehearsal brokerage

Answers from scripts, and where a script has run out with acceptance. Orders
that close the position of a group have scripts of their own.
-/

namespace FuturesDesk.Rehearsal

/-- One scripted answer. -/
inductive Entry where
  /-- A reply with an error. -/
  | reject (reason : String)
  /-- No reply, for this reason. -/
  | fail (reason : String)
  /-- No connection; the causes, outermost first. -/
  | cut (causes : List String)
  | reply (r : Reply)

/-- What reached the brokerage. -/
structure Tally where
  buys : Nat := 0
  sells : Nat := 0
  cancels : Nat := 0

structure Brokerage where
  opening : List Entry := []
  /-- By group. -/
  closing : Table (List Entry) := ∅
  /-- By order. -/
  cancels : Table (List Entry) := ∅
  /-- How many openings were accepted without a script. -/
  opened : Nat := 0
  /-- How many closings were, by group. -/
  closed : Table Nat := ∅
  tally : Tally := {}

namespace Brokerage

def extend (b : Brokerage) (opening : List Entry) (closing cancels : List (String × List Entry)) : Brokerage :=
  let add (t : Table (List Entry)) (p : String × List Entry) := t.insert p.1 ((t.find? p.1).getD [] ++ p.2)
  { b with
    opening := b.opening ++ opening
    closing := closing.foldl add b.closing
    cancels := cancels.foldl add b.cancels }

/-- Whether an order closes the position of a group. -/
def isClosing (o : Order) : Bool := !o.manual && !o.group.isEmpty

/-- Takes the next entry of a script. -/
def next? (t : Table (List Entry)) (id : String) : Option Entry × Table (List Entry) :=
  match t.find? id with
  | some (e :: es) => (some e, t.insert id es)
  | _ => (none, t)

def entry? (b : Brokerage) (o : Order) : Option Entry × Brokerage :=
  if isClosing o then
    let (e, closing) := next? b.closing o.group
    (e, { b with closing })
  else
    match b.opening with
    | e :: opening => (some e, { b with opening })
    | [] => (none, b)

def countOrder (b : Brokerage) (o : Order) : Brokerage :=
  { b with tally :=
      if o.action.isBuySide then { b.tally with buys := b.tally.buys + 1 }
      else { b.tally with sells := b.tally.sells + 1 } }

def countCancel (b : Brokerage) : Brokerage := { b with tally := { b.tally with cancels := b.tally.cancels + 1 } }

def acceptance (id : String) (now : UInt64) : Answer :=
  .reply { orderId := id, status := .pendingSubmit, orderTime := Clock.signed now }

def place (b : Brokerage) (now : UInt64) (o : Order) : Answer × Brokerage :=
  match b.entry? o with
  | (some (.reply r), b) => (.reply r, b)
  | (some (.cut causes), b) => (.failure (String.intercalate ": " causes), b)
  | (some (.reject reason), b) => (.reply { error := reason }, b.countOrder o)
  | (some (.fail reason), b) => (.failure reason, b.countOrder o)
  | (none, b) =>
    if isClosing o then
      let k := (b.closed.find? o.group).getD 0 + 1
      (acceptance (o.group ++ "~" ++ toString k) now, { b with closed := b.closed.insert o.group k })
    else
      (acceptance ("mock-" ++ toString (b.opened + 1)) now, { b with opened := b.opened + 1 }.countOrder o)

def placeAll (b : Brokerage) (now : UInt64) : List Order → List Answer × Brokerage
  | [] => ([], b)
  | o :: os =>
    let (answer, b) := b.place now o
    let (answers, b) := b.placeAll now os
    (answer :: answers, b)

def cancel (b : Brokerage) (id : String) : Answer × Brokerage :=
  match next? b.cancels id with
  | (some (.reply r), cancels) => (.reply r, { b with cancels })
  | (some (.cut causes), cancels) => (.failure (String.intercalate ": " causes), { b with cancels })
  | (some (.reject reason), cancels) =>
    (.reply { orderId := id, error := reason }, { b with cancels }.countCancel)
  | (some (.fail reason), cancels) => (.failure reason, { b with cancels }.countCancel)
  | (none, _) => (.reply { orderId := id, status := .cancelled }, b.countCancel)

def cancelAll (b : Brokerage) : List String → Table Answer × Brokerage
  | [] => (∅, b)
  | id :: ids =>
    let (answer, b) := b.cancel id
    let (answers, b) := b.cancelAll ids
    (answers.insert id answer, b)

end Brokerage

def answerOf (answers : Table Answer) (id : String) : Answer := (answers.find? id).getD (.failure "")

end FuturesDesk.Rehearsal
