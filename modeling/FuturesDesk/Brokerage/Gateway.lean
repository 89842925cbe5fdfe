import FuturesDesk.Brokerage.Query
import FuturesDesk.Clock
import FuturesDesk.Http.Exchange
import FuturesDesk.Json.Scan
import FuturesDesk.Number.Written
import FuturesDesk.Order.Wire

/-!
# The brokerage's gateway

Orders and cancels go out as signed requests. A reply is read leniently.
-/

namespace FuturesDesk

/-- An account at a gateway. -/
structure Gateway where
  /-- The path all requests start with. -/
  base : String := ""
  apiKey : String
  secretKey : String

namespace Gateway

/-- What is asked of a gateway. -/
inductive Errand where
  | buy (o : Order)
  | sell (o : Order)
  | cancel (id : String)

namespace Errand

/-- An order goes to the side of its action. -/
def submit (o : Order) : Errand := if o.action.isBuySide then .buy o else .sell o

def path : Errand → String
  | .buy _ => "/api/v1/order/buy"
  | .sell _ => "/api/v1/order/sell"
  | .cancel _ => "/api/v1/order/cancel"

def orderParams (o : Order) : Query.Params :=
  [("code", o.code), ("price", plainText o.price), ("quantity", intText o.quantity.toInt)]

def params : Errand → Query.Params
  | .buy o => orderParams o
  | .sell o => orderParams o
  | .cancel id => [("order_id", id)]

end Errand

def service : String := "gateway"

def params (e : Errand) (now : UInt64) : Query.Params := e.params ++ [("timestamp", toString now.toNat)]

def request (g : Gateway) (now : UInt64) (e : Errand) : Http.Request where
  verb := .post
  target := Percent.encodePath (Http.trimSlashes g.base ++ e.path) ++ "?" ++ Query.signed (params e now) g.secretKey
  apiKey := some g.apiKey

def readReply? (text : String) : Option Reply := (Json.parse? text).map Reply.ofJson

def ask (g : Gateway) (peer : Http.Peer) (now : UInt64) (e : Errand) : Http.Outcome Reply :=
  Http.exchange peer (g.request now e) readReply?

/-- The answer the desk takes from an exchange. -/
def answer (g : Gateway) (peer : Http.Peer) (now : UInt64) (e : Errand) : Answer :=
  match (g.ask peer now e).result with
  | .ok r => .reply r
  | .error p => .failure (p.message service e.path)

end Gateway

end FuturesDesk
