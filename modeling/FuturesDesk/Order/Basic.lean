import FuturesDesk.Number.Written
import FuturesDesk.Order.Action
import FuturesDesk.Order.Status

/-!
# Orders

An order, the brokerage's reply to its placement, and the status updates that
follow. Times are milliseconds since the epoch.
-/

namespace FuturesDesk

structure Order where
  /-- Given by the brokerage on acceptance; empty before. -/
  id : String := ""
  /-- Shared by an opening order and the orders that close it. -/
  group : String := ""
  code : String
  action : Action
  price : Float
  quantity : Int64
  status : Status := .unknown
  /-- The brokerage's time. -/
  orderTime : Int64 := 0
  /-- The desk's time of placement or fill; zero while a cancel is unanswered. -/
  tradeTime : UInt64 := 0
  /-- Placed by the client, not by an assist. -/
  manual : Bool := false

namespace Order

def isAccepted (o : Order) : Bool := !o.id.isEmpty

def isLong (o : Order) : Bool := o.action.isBuySide

def text (o : Order) : String :=
  "Order(" ++ o.code ++ " " ++ o.action.name ++ " " ++ o.group ++ " " ++ twoPlaces o.price ++ "x" ++
    intText o.quantity.toInt ++ " " ++ o.status.name ++ " id=" ++ o.id ++ ")"

end Order

/-- The brokerage's reply to a placement or a cancel. -/
structure Reply where
  orderId : String := ""
  status : Status := .unknown
  error : String := ""
  orderTime : Int64 := 0

def Reply.isError (r : Reply) : Bool := !r.error.isEmpty

/-- What came back for a question to the brokerage. -/
inductive Answer where
  | reply (r : Reply)
  /-- No reply came back, for this reason. -/
  | failure (reason : String)

structure StatusUpdate where
  orderId : String
  status : Status
  orderTime : Int64 := 0
  price : Option Float := none

/-! ## Assisted orders -/

inductive AutomationKind where
  | byBalance | byTimePeriod | byTimePeriodAndBalance
deriving DecidableEq, Repr

namespace AutomationKind

def name : AutomationKind → String
  | .byBalance => "ByBalance"
  | .byTimePeriod => "ByTimePeriod"
  | .byTimePeriodAndBalance => "ByTimePeriodAndBalance"

def usesBalance : AutomationKind → Bool
  | .byBalance | .byTimePeriodAndBalance => true
  | .byTimePeriod => false

def usesTime : AutomationKind → Bool
  | .byTimePeriod | .byTimePeriodAndBalance => true
  | .byBalance => false

end AutomationKind

/-- When an assist closes a position: the price leaves a band around the fill,
or a time has passed since. -/
structure Automation where
  kind : AutomationKind
  balanceHigh : Float := 0
  balanceLow : Float := 0
  periodSecs : UInt64 := 0

def Automation.periodMillis (a : Automation) : Nat := a.periodSecs.toNat * 1000

/-- An opening order and how to close it. -/
structure AssistTarget where
  order : Order
  option : Automation

end FuturesDesk
