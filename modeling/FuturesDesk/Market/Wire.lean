import FuturesDesk.Json.Record
import FuturesDesk.Market.Basic

/-!
# Market data as JSON
-/

namespace FuturesDesk

open Json Json.Record

namespace TickSide

def variants : List (String × TickSide) := [TickSide.buy, .sell].map fun s => (s.name, s)

def toJson (s : TickSide) : Json := .str s.name

def decoder : Decoder TickSide := .variant variants

end TickSide

namespace Tick

def toJson (t : Tick) : Json :=
  .record [("code", .str t.code), ("time", .int t.time.toInt), ("open", .float t.opening),
    ("close", .float t.close), ("high", .float t.high), ("low", .float t.low), ("volume", .int t.volume.toInt),
    ("totalVolume", .int t.totalVolume.toInt), ("tickType", t.side.toJson)]

def wire : Record Tick :=
  Tick.mk <$> required "code" .text <*> required "time" .int64 <*> defaulted "open" .float 0 <*>
    required "close" .float <*> defaulted "high" .float 0 <*> defaulted "low" .float 0 <*>
    defaulted "volume" .int64 0 <*> defaulted "totalVolume" .int64 0 <*>
    defaulted "tickType" TickSide.decoder .buy

def decoder : Decoder Tick := wire.decoder "Tick"

end Tick

namespace Bar

def toJson (b : Bar) : Json :=
  .record [("time", .int b.time.toInt), ("open", .float b.opening), ("high", .float b.high), ("low", .float b.low),
    ("close", .float b.close), ("volume", .int b.volume.toInt)]

def wire : Record Bar :=
  Bar.mk <$> required "time" .int64 <*> required "open" .float <*> required "high" .float <*>
    required "low" .float <*> required "close" .float <*> required "volume" .int64

def decoder : Decoder Bar := wire.decoder "KBar"

end Bar

namespace IndexStatus

def toJson (s : IndexStatus) : Json :=
  .record [("price", .float s.price), ("change", .float s.change), ("changeRate", .float s.changeRate),
    ("breakOut", .bool s.breakOut)]

def wire : Record IndexStatus :=
  IndexStatus.mk <$> required "price" .float <*> required "change" .float <*> required "changeRate" .float <*>
    defaulted "breakOut" .bool false

def decoder : Decoder IndexStatus := wire.decoder "IndexStatus"

end IndexStatus

namespace TradeIndex

def toJson (i : TradeIndex) : Json :=
  .record [("tse", i.tse.toJson), ("otc", i.otc.toJson), ("nasdaq", i.nasdaq.toJson), ("nf", i.nf.toJson)]

def wire : Record TradeIndex :=
  TradeIndex.mk <$> required "tse" IndexStatus.decoder <*> required "otc" IndexStatus.decoder <*>
    required "nasdaq" IndexStatus.decoder <*> required "nf" IndexStatus.decoder

def decoder : Decoder TradeIndex := wire.decoder "TradeIndex"

end TradeIndex

namespace Position

def toJson (p : Position) : Json :=
  .record [("code", .str p.code), ("direction", .str p.direction), ("quantity", .int p.quantity.toInt),
    ("price", .float p.price), ("lastPrice", .float p.lastPrice), ("pnl", .float p.pnl)]

def wire : Record Position :=
  Position.mk <$> required "code" .text <*> required "direction" .text <*> required "quantity" .int64 <*>
    required "price" .float <*> required "lastPrice" .float <*> required "pnl" .float

def decoder : Decoder Position := wire.decoder "Position"

end Position

end FuturesDesk
