/-!
# Order actions

Positions are opened long by `Buy` and short by `SellFirst`, and closed by
`Sell` and `BuyLater`.
-/

namespace FuturesDesk

inductive Action where
  | buy | sell | sellFirst | buyLater
deriving DecidableEq, Repr

namespace Action

def isOpening : Action → Bool
  | .buy | .sellFirst => true
  | .sell | .buyLater => false

def isBuySide : Action → Bool
  | .buy | .buyLater => true
  | .sell | .sellFirst => false

/-- The action that undoes this one. -/
def opposite : Action → Action
  | .buy => .sell
  | .sell => .buy
  | .sellFirst => .buyLater
  | .buyLater => .sellFirst

def name : Action → String
  | .buy => "Buy"
  | .sell => "Sell"
  | .sellFirst => "SellFirst"
  | .buyLater => "BuyLater"

@[simp] theorem opposite_opposite (a : Action) : a.opposite.opposite = a := by cases a <;> rfl

theorem isOpening_opposite (a : Action) : a.opposite.isOpening = !a.isOpening := by cases a <;> rfl

theorem isBuySide_opposite (a : Action) : a.opposite.isBuySide = !a.isBuySide := by cases a <;> rfl

end Action

end FuturesDesk
