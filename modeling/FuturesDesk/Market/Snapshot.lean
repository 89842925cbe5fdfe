import FuturesDesk.Http.Exchange
import FuturesDesk.Market.Wire
import FuturesDesk.Text.Percent

/-!
# Snapshots

Index levels, positions and bars as a service has them at the moment.
-/

namespace FuturesDesk.Snapshot

inductive Kind where
  | tradeIndex
  | positions
  /-- The bars of an instrument over a number of trading days. -/
  | bars (code : String) (days : UInt32)

inductive Data where
  | tradeIndex (i : TradeIndex)
  | positions (ps : List Position)
  | bars (bs : List Bar)

def Data.toJson : Data → Json
  | .tradeIndex i => i.toJson
  | .positions ps => .list (ps.map Position.toJson)
  | .bars bs => .list (bs.map Bar.toJson)

def service : String := "snapshot"

namespace Kind

def path : Kind → String
  | .tradeIndex => "/api/v1/trade-index"
  | .positions => "/api/v1/positions"
  | .bars .. => "/api/v1/kbars"

/-- The query as a form, with its question mark. -/
def query : Kind → List Char
  | .bars code days =>
    "?code=".toList ++ Percent.encodeForm code ++ "&days=".toList ++ (toString days.toNat).toList
  | _ => []

def decode (k : Kind) : Json.Decoder Data :=
  match k with
  | .tradeIndex => fun j => (TradeIndex.decoder j).map .tradeIndex
  | .positions => fun j => (Json.Decoder.list Position.decoder j).map .positions
  | .bars .. => fun j => (Json.Decoder.list Bar.decoder j).map .bars

def read? (k : Kind) (text : String) : Option Data := (Json.Decoder.run k.decode text).toOption

end Kind

def request (base : String) (k : Kind) : Http.Request where
  verb := .get
  target := Percent.encodePath (Http.trimSlashes base ++ k.path) ++ String.ofList k.query

def ask (base : String) (peer : Http.Peer) (k : Kind) : Http.Outcome Data :=
  Http.exchange peer (request base k) k.read?

end FuturesDesk.Snapshot
