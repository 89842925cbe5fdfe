import FuturesDesk.Proofs.OrderFrames

/-!
# The guards of admission

A command passes five guards, one after the other. The first that stops it
decides what the client is told, whatever the later ones say.
-/

namespace FuturesDesk

def Frame.errorCode? : Frame → Option Int
  | .message (.error e _) => some e.code
  | _ => none

inductive Guard where
  | hours | waiting | assists | assistQuantity | orderQuantity
deriving DecidableEq

namespace Guard

/-- The guards in the order in which they are asked. -/
def order : List Guard := [hours, waiting, assists, assistQuantity, orderQuantity]

def code : Guard → Int
  | hours => -1
  | waiting => -2
  | assists => -4
  | assistQuantity => -5
  | orderQuantity => -3

def stops (s : Session) (now : UInt64) (c : Command) : Guard → Bool
  | hours => !s.isOpenAt now
  | waiting => 0 < s.waiting.size
  | assists => 0 < s.queues.size + s.pending.size
  | assistQuantity => c.option.isSome && s.settings.maxAssistQuantity < c.quantity
  | orderQuantity => s.settings.maxOrderQuantity < c.quantity

def rejection (s : Session) (c : Command) : Guard → Rejection
  | hours => .notTradingHours
  | waiting => .orderPending s.waiting.size
  | assists => .assistBusy
  | assistQuantity => .assistQuantity s.settings.maxAssistQuantity c.quantity
  | orderQuantity => .orderQuantity s.settings.maxOrderQuantity c.quantity

theorem mem_order (g : Guard) : g ∈ order := by cases g <;> decide

theorem code_rejection (s : Session) (c : Command) (g : Guard) : (g.rejection s c).code.code = g.code := by
  cases g <;> rfl

def first? (s : Session) (now : UInt64) (c : Command) : Option Guard := order.find? (stops s now c)

end Guard

namespace Session

variable {s : Session} {now : UInt64} {c : Command}

theorem refusal?_eq (s : Session) (now : UInt64) (c : Command) :
    (s.admission now).refusal? c = (Guard.first? s now c).map (Guard.rejection s c) := by
  have hcons : ∀ g gs, ((g :: gs).find? (Guard.stops s now c)).map (Guard.rejection s c) =
      if g.stops s now c then some (g.rejection s c)
      else (gs.find? (Guard.stops s now c)).map (Guard.rejection s c) := by
    intro g gs
    rw [List.find?_cons]
    cases g.stops s now c <;> rfl
  unfold Guard.first? Guard.order Admission.refusal?
  simp only [hcons, Guard.stops, Guard.rejection, admission, List.find?_nil, Option.map_none, decide_eq_true_eq]
  rfl

theorem first?_eq_none_iff : Guard.first? s now c = none ↔ ∀ g : Guard, g.stops s now c = false := by
  rw [Guard.first?, List.find?_eq_none]
  constructor
  · intro h g
    exact eq_false_of_ne_true (h g g.mem_order)
  · intro h g _
    exact ne_true_of_eq_false (h g)

theorem refusal?_eq_none_iff : (s.admission now).refusal? c = none ↔ ∀ g : Guard, g.stops s now c = false := by
  rw [refusal?_eq, Option.map_eq_none_iff, first?_eq_none_iff]

theorem quantity_le_of_passed (h : ∀ g : Guard, g.stops s now c = false) :
    c.quantity ≤ s.settings.maxOrderQuantity := by
  have hq : ¬ s.settings.maxOrderQuantity < c.quantity := of_decide_eq_false (h .orderQuantity)
  exact Int64.not_lt.mp hq

end Session

end FuturesDesk
