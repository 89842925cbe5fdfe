import FuturesDesk.Bus
import FuturesDesk.Order.Basic

/-!
# Events of a desk

What a session and its traders tell each other over their bus.
-/

namespace FuturesDesk

inductive DeskEvent where
  /-- The status of an order changed. -/
  | orderStatus (o : Order)
  /-- A trader placed an order. -/
  | placed (o : Order)
  /-- A trader has closed the whole position of its primary order. -/
  | assistDone (primary : String)
  /-- A trader could not place its order. -/
  | assistFailed (primary reason : String)

end FuturesDesk
