import FuturesDesk.Feed.Fields
import FuturesDesk.Json.Scan
import FuturesDesk.Market.Basic
import FuturesDesk.Order.Basic

/-!
# Frames of the market-data bus

A frame names a channel and carries its data, for one connection or for all.
-/

namespace FuturesDesk.Feed

inductive Payload where
  | tick (t : Tick)
  | status (u : StatusUpdate)

structure Frame where
  /-- The connection addressed; none addresses all. -/
  connId : Option String
  payload : Payload

/-- The side of a tick: the number 2 or a text `sell` mean a sale. -/
def sideOf : Option Json → TickSide
  | some (.string (some s)) => if String.ofList (s.toList.map Char.toLower) = "sell" then .sell else .buy
  | some j => if j.int? = some 2 then .sell else .buy
  | none => .buy

/-- Prices that are missing are taken to be the close. -/
def tick? (d : Json) : Option Tick := do
  let close ← floatField? d "close"
  let code ← textField? d "code"
  let time ← intField? d "time"
  return {
    code, time, close
    opening := (floatField? d "open").getD close
    high := (floatField? d "high").getD close
    low := (floatField? d "low").getD close
    volume := (intField? d "volume").getD 0
    totalVolume := (intField? d "total_volume").getD 0
    side := sideOf (d.get? "tick_type") }

/-- An update without an order id is none. -/
def status? (d : Json) : Option StatusUpdate := do
  let orderId ← textField? d "order_id"
  if orderId.isEmpty then none
  let status ← textField? d "status"
  return {
    orderId
    status := .ofText status
    orderTime := (intField? d "order_time").getD 0
    price := floatField? d "price" }

def payload? (channel : String) (d : Json) : Option Payload :=
  if channel = "tick" then (tick? d).map .tick
  else if channel = "order" then (status? d).map .status
  else none

/-- Reads a frame; what is no data frame is ignored. -/
def Frame.ofText? (text : String) : Option Frame := do
  let j ← Json.parse? text
  let channel ← textField? j "channel"
  let data ← j.get? "data"
  let payload ← payload? channel data
  return ⟨textField? j "conn_id", payload⟩

end FuturesDesk.Feed
