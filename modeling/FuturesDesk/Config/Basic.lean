import FuturesDesk.Config.Hours
import FuturesDesk.Json.Record

/-!
# Configuration

The settings of a desk, read from a JSON file.
-/

namespace FuturesDesk

namespace Config

structure Meta where
  moduleName : Option String := none
  logPath : Option String := none

structure Server where
  listenAddr : String := "0.0.0.0:8080"

structure Gateway where
  baseUrl : String
  apiKey : String
  secretKey : String
  timeoutMs : UInt64 := 5000

structure Feed where
  busUrl : String
  snapshotUrl : String := ""
  pingIntervalSecs : UInt64 := 20

structure Trade where
  instrumentCode : String := "MXFL1"
  openTimeoutSecs : UInt64 := 10
  closeTimeoutSecs : UInt64 := 30
  sweepIntervalMs : UInt64 := 1000
  tradeIndexIntervalSecs : UInt64 := 3
  positionIntervalSecs : UInt64 := 5
  kbarIntervalSecs : UInt64 := 60
  kbarDays : UInt32 := 2
  maxAssistQuantity : Int64 := 4
  maxOrderQuantity : Int64 := 20
  tradingHours : List WindowText := [⟨"08:45", "13:45"⟩, ⟨"15:00", "05:00"⟩]

namespace Trade

/-- How long an opening order may stay live, in milliseconds. -/
def openTimeout (t : Trade) : Nat := t.openTimeoutSecs.toNat * 1000

/-- How long a closing order may stay live, in milliseconds. -/
def closeTimeout (t : Trade) : Nat := t.closeTimeoutSecs.toNat * 1000

end Trade

end Config

structure Config where
  about : Config.Meta := {}
  server : Config.Server := {}
  gateway : Config.Gateway
  feed : Config.Feed
  trade : Config.Trade := {}

namespace Config

/-! ## Reading -/

open Json Json.Record

def Meta.decoder : Decoder Meta :=
  (Meta.mk <$> nullable "module_name" .text <*> nullable "log_path" .text).decoder "ModuleMeta"

def Server.decoder : Decoder Server :=
  (Server.mk <$> defaulted "listen_addr" .text ({} : Server).listenAddr).decoder "ServerConfig"

def Gateway.decoder : Decoder Gateway :=
  (Gateway.mk <$> required "base_url" .text <*> required "api_key" .text <*> required "secret_key" .text <*>
    defaulted "timeout_ms" .uint64 5000).decoder "GatewayConfig"

def Feed.decoder : Decoder Feed :=
  (Feed.mk <$> required "bus_url" .text <*> defaulted "snapshot_url" .text "" <*>
    defaulted "ping_interval_secs" .uint64 20).decoder "FeedConfig"

def windowDecoder : Decoder WindowText :=
  (WindowText.mk <$> required "start" .text <*> required "end" .text).decoder "TradingWindow"

def Trade.decoder : Decoder Trade :=
  let t : Trade := {}
  (Trade.mk <$> defaulted "instrument_code" .text t.instrumentCode <*>
    defaulted "open_timeout_secs" .uint64 t.openTimeoutSecs <*>
    defaulted "close_timeout_secs" .uint64 t.closeTimeoutSecs <*>
    defaulted "sweep_interval_ms" .uint64 t.sweepIntervalMs <*>
    defaulted "trade_index_interval_secs" .uint64 t.tradeIndexIntervalSecs <*>
    defaulted "position_interval_secs" .uint64 t.positionIntervalSecs <*>
    defaulted "kbar_interval_secs" .uint64 t.kbarIntervalSecs <*>
    defaulted "kbar_days" .uint32 t.kbarDays <*>
    defaulted "max_assist_quantity" .int64 t.maxAssistQuantity <*>
    defaulted "max_order_quantity" .int64 t.maxOrderQuantity <*>
    defaulted "trading_hours" (.list windowDecoder) t.tradingHours).decoder "TradeConfig"

def decoder : Decoder Config :=
  (Config.mk <$> defaulted "meta" Meta.decoder {} <*> defaulted "server" Server.decoder {} <*>
    required "gateway" Gateway.decoder <*> required "feed" Feed.decoder <*>
    defaulted "trade" Trade.decoder {}).decoder "AppConfig"

/-! ## Validation -/

/-- The first setting that cannot be used. -/
def validate (c : Config) : Except Fault Unit := do
  if c.gateway.baseUrl.isEmpty then throw (.config "gateway.base_url is empty")
  if c.feed.busUrl.isEmpty then throw (.config "feed.bus_url is empty")
  if c.trade.instrumentCode.isEmpty then throw (.config "trade.instrument_code is empty")
  if c.trade.maxOrderQuantity ≤ 0 then throw (.config "trade.max_order_quantity must be > 0")
  if c.trade.sweepIntervalMs = 0 then throw (.config "trade.sweep_interval_ms must be > 0")
  let _ ← c.trade.tradingHours.mapM WindowText.parse

/-- Why a configuration cannot be loaded. -/
inductive LoadProblem where
  /-- There is no such file, or it is no text. -/
  | unreadable
  | json (p : Problem)
  | fault (f : Fault)

def ofText (text : String) : Except LoadProblem Config := do
  let c ← (decoder.run text).mapError .json
  c.validate.mapError .fault
  return c

def load (bytes : Option ByteArray) : Except LoadProblem Config :=
  match bytes.bind String.fromUTF8? with
  | some text => ofText text
  | none => .error .unreadable

end Config

end FuturesDesk
