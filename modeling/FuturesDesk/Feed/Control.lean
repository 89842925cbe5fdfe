import FuturesDesk.Json.Printer

/-!
# Control frames

What the desk asks of the market-data bus for a connection.
-/

namespace FuturesDesk.Feed

inductive Control where
  | subscribeTicks (connId code : String)
  | subscribeOrders (connId : String)
  | unsubscribe (connId : String)
deriving DecidableEq, Repr

namespace Control

def connId : Control → String
  | .subscribeTicks id _ => id
  | .subscribeOrders id => id
  | .unsubscribe id => id

/-- The members in the order of their names. -/
def toJson : Control → Json
  | .subscribeTicks id code =>
    .record [("channel", .str "tick"), ("code", .str code), ("conn_id", .str id), ("op", .str "subscribe")]
  | .subscribeOrders id => .record [("channel", .str "order"), ("conn_id", .str id), ("op", .str "subscribe")]
  | .unsubscribe id => .record [("conn_id", .str id), ("op", .str "unsubscribe")]

def text (c : Control) : String := c.toJson.render

end Control

end FuturesDesk.Feed
