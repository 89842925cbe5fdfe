import FuturesDesk.Json.Record
import FuturesDesk.Order.Basic

/-!
# Orders as JSON

For each type the document it is written as and the record it is read from.
-/

namespace FuturesDesk

open Json Json.Record

namespace Action

def variants : List (String × Action) := [Action.buy, .sell, .sellFirst, .buyLater].map fun a => (a.name, a)

def toJson (a : Action) : Json := .str a.name

def decoder : Decoder Action := .variant variants

end Action

namespace Status

def variants : List (String × Status) :=
  [Status.unknown, .pendingSubmit, .preSubmitted, .submitted, .filled, .partFilled, .cancelled, .failed].map
    fun s => (s.name, s)

def toJson (s : Status) : Json := .str s.name

def decoder : Decoder Status := .variant variants

end Status

namespace Order

/-- The time of the desk is not written. -/
def toJson (o : Order) : Json :=
  .record [("orderId", .str o.id), ("groupId", .str o.group), ("code", .str o.code), ("action", o.action.toJson),
    ("price", .float o.price), ("quantity", .int o.quantity.toInt), ("status", o.status.toJson),
    ("orderTime", .int o.orderTime.toInt), ("manual", .bool o.manual)]

def wire : Record Order :=
  (fun id group code action price quantity status orderTime manual =>
    { id, group, code, action, price, quantity, status, orderTime, manual }) <$>
    required "orderId" .text <*> required "groupId" .text <*> required "code" .text <*>
    required "action" Action.decoder <*> required "price" .float <*> required "quantity" .int64 <*>
    required "status" Status.decoder <*> required "orderTime" .int64 <*> required "manual" .bool

def decoder : Decoder Order := wire.decoder "Order"

end Order

namespace Reply

def toJson (r : Reply) : Json :=
  .record [("order_id", .str r.orderId), ("status", r.status.toJson), ("error", .str r.error),
    ("order_time", .int r.orderTime.toInt)]

def wire : Record Reply :=
  Reply.mk <$> defaulted "order_id" .text "" <*> defaulted "status" Status.decoder .unknown <*>
    defaulted "error" .text "" <*> defaulted "order_time" .int64 0

def decoder : Decoder Reply := wire.decoder "GatewayReply"

/-- Reads a reply leniently: a part that is missing or of another kind counts
as empty, and a status is read in any spelling. -/
def ofJson (j : Json) : Reply where
  orderId := ((j.get? "order_id").bind (·.str?)).getD ""
  status := (((j.get? "status").bind (·.str?)).map Status.ofText).getD .unknown
  error := ((j.get? "error").bind (·.str?)).getD ""
  orderTime := Int64.ofInt (((j.get? "order_time").bind (·.int?)).getD 0)

end Reply

namespace StatusUpdate

def toJson (u : StatusUpdate) : Json :=
  .record [("order_id", .str u.orderId), ("status", u.status.toJson), ("order_time", .int u.orderTime.toInt),
    ("price", .optional .float u.price)]

def wire : Record StatusUpdate :=
  StatusUpdate.mk <$> required "order_id" .text <*> required "status" Status.decoder <*>
    defaulted "order_time" .int64 0 <*> defaulted "price" (Decoder.nullable .float) none

def decoder : Decoder StatusUpdate := wire.decoder "OrderStatusUpdate"

end StatusUpdate

namespace AutomationKind

def variants : List (String × AutomationKind) :=
  [AutomationKind.byBalance, .byTimePeriod, .byTimePeriodAndBalance].map fun k => (k.name, k)

def toJson (k : AutomationKind) : Json := .str k.name

def decoder : Decoder AutomationKind := .variant variants

end AutomationKind

namespace Automation

def toJson (a : Automation) : Json :=
  .record [("automationType", a.kind.toJson), ("byBalanceHigh", .float a.balanceHigh),
    ("byBalanceLow", .float a.balanceLow), ("byTimePeriodSecs", .nat a.periodSecs.toNat)]

def wire : Record Automation :=
  Automation.mk <$> required "automationType" AutomationKind.decoder <*> defaulted "byBalanceHigh" .float 0 <*>
    defaulted "byBalanceLow" .float 0 <*> defaulted "byTimePeriodSecs" .uint64 0

def decoder : Decoder Automation := wire.decoder "HalfAutomationOption"

end Automation

end FuturesDesk
