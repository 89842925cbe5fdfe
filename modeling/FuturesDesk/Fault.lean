/-!
# Faults

What can go wrong outside a single order, by the part of the desk it concerns.
-/

namespace FuturesDesk

inductive Fault where
  | config (text : String)
  | gateway (text : String)
  | feed (text : String)
  | protocol (text : String)
deriving DecidableEq, Repr

def Fault.message : Fault → String
  | .config text => "config error: " ++ text
  | .gateway text => "gateway error: " ++ text
  | .feed text => "feed error: " ++ text
  | .protocol text => "protocol error: " ++ text

end FuturesDesk
