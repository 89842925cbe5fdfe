import FuturesDesk.Json.Printer
import FuturesDesk.Market.Wire
import FuturesDesk.Order.Wire

/-!
# Frames to the client

Messages carry their kind and their data; a ping is answered with a bare text.
-/

namespace FuturesDesk

inductive ErrorCode where
  | notTradingHours | orderPending | decodeFailed | assistBusy | assistQuantity | placeOrderFailed | cancelFailed
  | assistOrderFailed
deriving DecidableEq, Repr

def ErrorCode.code : ErrorCode → Int
  | .notTradingHours => -1
  | .orderPending => -2
  | .decodeFailed => -3
  | .assistBusy => -4
  | .assistQuantity => -5
  | .placeOrderFailed => -6
  | .cancelFailed => -7
  | .assistOrderFailed => -8

inductive Message where
  | tick (t : Tick)
  | order (o : Order)
  | tradeIndex (i : TradeIndex)
  | positions (ps : List Position)
  | bars (bs : List Bar)
  | assistStatus (running : Bool)
  | error (code : ErrorCode) (text : String)

namespace Message

def kind : Message → String
  | .tick _ => "tick"
  | .order _ => "order"
  | .tradeIndex _ => "trade_index"
  | .positions _ => "position"
  | .bars _ => "kbar"
  | .assistStatus _ => "assist_status"
  | .error .. => "error"

def data : Message → Json
  | .tick t => t.toJson
  | .order o => o.toJson
  | .tradeIndex i => i.toJson
  | .positions ps => .list (ps.map Position.toJson)
  | .bars bs => .list (bs.map Bar.toJson)
  | .assistStatus running => .record [("running", .bool running)]
  | .error code text => .record [("code", .int code.code), ("text", .str text)]

end Message

/-- One frame queued for the client. -/
inductive Frame where
  | message (m : Message)
  | pong

def Frame.text : Frame → String
  | .message m => (Json.record [("type", .str m.kind), ("data", m.data)]).render
  | .pong => "pong"

end FuturesDesk
