import FuturesDesk.Number.Written

/-!
# Market data

Ticks, bars, index levels and positions.
-/

namespace FuturesDesk

/-- The side that traded. -/
inductive TickSide where
  | buy | sell
deriving DecidableEq, Repr

namespace TickSide

def name : TickSide → String
  | .buy => "Buy"
  | .sell => "Sell"

def label : TickSide → String
  | .buy => "BUY"
  | .sell => "SELL"

end TickSide

structure Tick where
  code : String := ""
  time : Int64 := 0
  opening : Float := 0
  close : Float := 0
  high : Float := 0
  low : Float := 0
  volume : Int64 := 0
  totalVolume : Int64 := 0
  side : TickSide := .buy

def Tick.text (t : Tick) : String :=
  "Tick(" ++ t.code ++ " " ++ t.side.label ++ " " ++ twoPlaces t.close ++ "x" ++ intText t.volume.toInt ++
    " total=" ++ intText t.totalVolume.toInt ++ " t=" ++ intText t.time.toInt ++ ")"

/-- A bar of trading in a period. -/
structure Bar where
  time : Int64
  opening : Float
  high : Float
  low : Float
  close : Float
  volume : Int64

structure IndexStatus where
  price : Float := 0
  change : Float := 0
  changeRate : Float := 0
  breakOut : Bool := false

/-- The levels of four markets. -/
structure TradeIndex where
  tse : IndexStatus := {}
  otc : IndexStatus := {}
  nasdaq : IndexStatus := {}
  nf : IndexStatus := {}

structure Position where
  code : String
  direction : String
  quantity : Int64
  price : Float
  lastPrice : Float
  pnl : Float

end FuturesDesk
