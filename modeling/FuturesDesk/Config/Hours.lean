import FuturesDesk.Config.Window

/-!
# Trading hours

The local times of day at which the desk trades: a list of windows, or always.
-/

namespace FuturesDesk

structure Hours where
  windows : List (Minute × Minute)
  always : Bool
deriving DecidableEq, Repr

namespace Hours

def alwaysOpen : Hours := ⟨[], true⟩

def neverOpen : Hours := ⟨[], false⟩

/-- Windows in order; the first bad text in list order is the fault. -/
def ofWindows (ws : List WindowText) : Except Fault Hours := do
  let windows ← ws.mapM WindowText.parse
  return ⟨windows, false⟩

/-- Whether a time of day lies in a window: from its start to before its end,
around midnight if the end comes first, and all day if both are the same. -/
def inWindow (t : TimeOfDay) (w : Minute × Minute) : Bool :=
  let started := !t.before (.ofMinute w.1)
  let unfinished := t.before (.ofMinute w.2)
  if w.1 = w.2 then true
  else if w.1 < w.2 then started && unfinished
  else started || unfinished

/-- Whether the desk trades at a time of day. -/
def contains (h : Hours) (t : TimeOfDay) : Bool := h.always || h.windows.any (inWindow t)

/-- Whether a desk in a zone trades at a time since the epoch. -/
def isOpenAt (h : Hours) (zone : Zone) (now : UInt64) : Bool := h.contains (zone.timeOfDay now)

end Hours

end FuturesDesk
