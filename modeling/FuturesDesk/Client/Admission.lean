import FuturesDesk.Client.Command
import FuturesDesk.Client.Frame

/-!
# Admission

A command is taken only in trading hours, while nothing else is in flight, and
up to the limits on its quantity.
-/

namespace FuturesDesk

inductive Rejection where
  | notTradingHours
  | orderPending (count : Nat)
  | assistBusy
  | assistQuantity (limit quantity : Int64)
  | orderQuantity (limit quantity : Int64)
deriving DecidableEq

namespace Rejection

def reason : Rejection → String
  | .notTradingHours => "outside trading hours"
  | .orderPending n => toString n ++ " previous order(s) still pending"
  | .assistBusy => "assist trader still running"
  | .assistQuantity limit quantity =>
    "assisted orders are limited to quantity " ++ intText limit.toInt ++ ", got " ++ intText quantity.toInt
  | .orderQuantity limit quantity =>
    "orders are limited to quantity " ++ intText limit.toInt ++ ", got " ++ intText quantity.toInt

def code : Rejection → ErrorCode
  | .notTradingHours => .notTradingHours
  | .orderPending _ => .orderPending
  | .assistBusy => .assistBusy
  | .assistQuantity .. => .assistQuantity
  | .orderQuantity .. => .decodeFailed

end Rejection

/-- What admission looks at. -/
structure Admission where
  inTradingHours : Bool
  waitingOrders : Nat
  assists : Nat
  maxAssistQuantity : Int64
  maxOrderQuantity : Int64

/-- The first ground for refusing a command. -/
def Admission.refusal? (s : Admission) (c : Command) : Option Rejection :=
  if !s.inTradingHours then some .notTradingHours
  else if 0 < s.waitingOrders then some (.orderPending s.waitingOrders)
  else if 0 < s.assists then some .assistBusy
  else if c.option.isSome && s.maxAssistQuantity < c.quantity then
    some (.assistQuantity s.maxAssistQuantity c.quantity)
  else if s.maxOrderQuantity < c.quantity then some (.orderQuantity s.maxOrderQuantity c.quantity)
  else none

end FuturesDesk
