import FuturesDesk.Desk.Trader
import FuturesDesk.Proofs.DoubleOrder
import FuturesDesk.Proofs.ReadCommands

/-!
# Triggers within reach

A trigger can fire if its band has a side that some finite price lies beyond, or
if its period ends before the last time that a tick can have. A command is read
with any option whose numbers have the right signs, so with one that is out of
reach as well.
-/

namespace FuturesDesk

open Binary64 (least greatest)

namespace Automation

def below (a : Automation) (o : Order) : Float := if o.isLong then a.balanceLow else a.balanceHigh

def above (a : Automation) (o : Order) : Float := if o.isLong then a.balanceHigh else a.balanceLow

/-- Some finite price lies beyond an open side of the band. -/
def BandInReach (a : Automation) (o : Order) : Prop :=
  0 < a.below o ∧ least < o.price - a.below o ∨ 0 < a.above o ∧ o.price + a.above o < greatest

/-- The period ends before the last time a tick can have. -/
def PeriodInReach (a : Automation) (o : Order) : Prop := a.periodMillis + o.tradeTime.toNat < 2 ^ 63 - 1

end Automation

namespace Trader

variable {o : Order} {a : Automation} {t : Trader}

/-! ## The band -/

theorem balanceHit_iff (tick : Tick) : balanceHit o a tick = true ↔
    0 < a.below o ∧ tick.close < o.price - a.below o ∨ 0 < a.above o ∧ o.price + a.above o < tick.close := by
  unfold balanceHit Automation.below Automation.above
  cases o.isLong
  · simp [or_comm]
  · simp

theorem exists_balanceHit_iff :
    (∃ tick : Tick, isFinite tick.close = true ∧ balanceHit o a tick = true) ↔ a.BandInReach o := by
  have hclose : ∀ p : Float → Prop, (∃ tick : Tick, p tick.close) ↔ ∃ x, p x :=
    fun p => ⟨fun ⟨tick, h⟩ => ⟨tick.close, h⟩, fun ⟨x, h⟩ => ⟨{ close := x }, h⟩⟩
  simp only [balanceHit_iff]
  rw [hclose fun x => isFinite x = true ∧
    (0 < a.below o ∧ x < o.price - a.below o ∨ 0 < a.above o ∧ o.price + a.above o < x)]
  unfold Automation.BandInReach
  rw [← Binary64.exists_lt_iff, ← Binary64.exists_gt_iff]
  constructor
  · rintro ⟨x, hx, ⟨hb, hlt⟩ | ⟨ha, hlt⟩⟩
    · exact Or.inl ⟨hb, x, hx, hlt⟩
    · exact Or.inr ⟨ha, x, hx, hlt⟩
  · rintro (⟨hb, x, hx, hlt⟩ | ⟨ha, x, hx, hlt⟩)
    · exact ⟨x, hx, Or.inl ⟨hb, hlt⟩⟩
    · exact ⟨x, hx, Or.inr ⟨ha, hlt⟩⟩

/-! ## The period -/

theorem toInt_signed {time : UInt64} (h : time.toNat < 2 ^ 63) : (Clock.signed time).toInt = time.toNat := by
  have hbits : 2 * time.toBitVec.toNat < 2 ^ 64 := by
    rw [UInt64.toNat_toBitVec]
    omega
  exact BitVec.toInt_eq_toNat_of_lt hbits

theorem toInt_saturatingSub (x y : Int64) :
    (Clock.saturatingSub x y).toInt = max (-2 ^ 63) (min (2 ^ 63 - 1) (x.toInt - y.toInt)) := by
  have hmin : Int64.minValue.toInt = -2 ^ 63 := rfl
  have hmax : Int64.maxValue.toInt = 2 ^ 63 - 1 := rfl
  unfold Clock.saturatingSub
  rw [hmin, hmax, Int64.toInt_ofInt_of_le (by omega) (by omega)]

theorem periodElapsed_iff (h : o.tradeTime.toNat < 2 ^ 63) (tick : Tick) :
    periodElapsed o a tick = true ↔ (a.periodMillis : Int) < tick.time.toInt - o.tradeTime.toNat := by
  have hlow := tick.time.le_toInt
  have hhigh := tick.time.toInt_lt
  unfold periodElapsed
  rw [decide_eq_true_iff, toInt_saturatingSub, toInt_signed h]
  omega

theorem exists_periodElapsed_iff (h : o.tradeTime.toNat < 2 ^ 63) :
    (∃ tick : Tick, isFinite tick.close = true ∧ periodElapsed o a tick = true) ↔ a.PeriodInReach o := by
  unfold Automation.PeriodInReach
  constructor
  · rintro ⟨tick, -, he⟩
    have hlt := (periodElapsed_iff h tick).mp he
    have hhigh := tick.time.toInt_lt
    omega
  · intro hlt
    have hlast : Int64.maxValue.toInt = 2 ^ 63 - 1 := rfl
    refine ⟨{ time := Int64.maxValue, close := 0 }, by decide +kernel, (periodElapsed_iff h _).mpr ?_⟩
    rw [hlast]
    omega

/-! ## The trigger -/

theorem shouldFire_iff (tick : Tick) : t.shouldFire tick = true ↔
    t.target.option.kind.usesBalance = true ∧ balanceHit t.primary t.target.option tick = true ∨
      t.target.option.kind.usesTime = true ∧ periodElapsed t.primary t.target.option tick = true := by
  unfold shouldFire
  dsimp only
  cases t.target.option.kind <;> simp [AutomationKind.usesBalance, AutomationKind.usesTime]

def CanFire (t : Trader) : Prop := ∃ tick : Tick, isFinite tick.close = true ∧ t.shouldFire tick = true

theorem canFire_iff (h : t.primary.tradeTime.toNat < 2 ^ 63) : t.CanFire ↔
    t.target.option.kind.usesBalance = true ∧ t.target.option.BandInReach t.primary ∨
      t.target.option.kind.usesTime = true ∧ t.target.option.PeriodInReach t.primary := by
  rw [← exists_balanceHit_iff, ← exists_periodElapsed_iff h]
  unfold CanFire
  simp only [shouldFire_iff]
  constructor
  · rintro ⟨tick, hx, ⟨hu, hb⟩ | ⟨hu, hp⟩⟩
    · exact Or.inl ⟨hu, tick, hx, hb⟩
    · exact Or.inr ⟨hu, tick, hx, hp⟩
  · rintro (⟨hu, tick, hx, hb⟩ | ⟨hu, tick, hx, hp⟩)
    · exact ⟨tick, hx, Or.inl ⟨hu, hb⟩⟩
    · exact ⟨tick, hx, Or.inr ⟨hu, hp⟩⟩

/-! ## Commands -/

/-- **What an accepted option promises.** The reader refuses a negative offset and
a missing period, and no more. So it takes options whose band and period are out
of reach, and the trader of such an option never fires. -/
theorem accepted_option_fires_iff {text : String} {c : Command} (hread : Command.ofText text = .ok c)
    (hoption : c.option = some a) (ht : t.target.option = a) (htime : t.primary.tradeTime.toNat < 2 ^ 63) :
    ((a.kind.usesBalance = true → ¬ a.balanceHigh < 0 ∧ ¬ a.balanceLow < 0) ∧
      (a.kind.usesTime = true → a.periodSecs ≠ 0)) ∧
    (t.CanFire ↔ a.kind.usesBalance = true ∧ a.BandInReach t.primary ∨
      a.kind.usesTime = true ∧ a.PeriodInReach t.primary) := by
  refine ⟨Command.optionFlaw?_eq_none_iff.mp (Command.optionFlaw?_of_ofText hread hoption), ?_⟩
  rw [canFire_iff htime, ht]

def bandAndPeriod : String :=
  "\"automationType\":\"ByTimePeriodAndBalance\",\"byBalanceHigh\":2,\"byBalanceLow\":2,\"byTimePeriodSecs\":5"

theorem accepted_option_fires_iff_bought :
    ∃ c a, Command.ofText (Command.buyWith bandAndPeriod) = .ok c ∧ c.option = some a ∧
      CanFire { target := ⟨{ code := "MXFL1", action := .buy, price := 100, quantity := 1, tradeTime := 1000 }, a⟩,
                inbox := 0 } := by
  obtain ⟨c, hread, hoption⟩ := Command.exists_ofText_of_option (Command.buyWith bandAndPeriod)
    ⟨.byTimePeriodAndBalance, 2, 2, 5⟩ (by decide +kernel)
  refine ⟨c, _, hread, hoption, (accepted_option_fires_iff hread hoption rfl (by decide)).2.mpr (Or.inr ⟨rfl, ?_⟩)⟩
  show 5 * 1000 + 1000 < 2 ^ 63 - 1
  decide

/-- An option to close by balance needs no offset, and without one no price
fires its trigger. -/
theorem accepted_without_offsets_never_fires :
    ∃ c a, Command.ofText (Command.buyWith "\"automationType\":\"ByBalance\"") = .ok c ∧ c.option = some a ∧
      ∀ t : Trader, t.target.option = a → ¬ t.CanFire := by
  obtain ⟨c, hread, hoption⟩ := Command.exists_ofText_of_option (Command.buyWith "\"automationType\":\"ByBalance\"")
    ⟨.byBalance, 0, 0, 0⟩ (by decide +kernel)
  refine ⟨c, _, hread, hoption, ?_⟩
  rintro t ht ⟨tick, -, hf⟩
  have hzero : ¬ (0 : Float) < 0 := by decide +kernel
  rw [shouldFire_iff, balanceHit_iff, ht] at hf
  cases hlong : t.primary.isLong <;>
    simp [Automation.below, Automation.above, AutomationKind.usesBalance, AutomationKind.usesTime, hlong, hzero] at hf

end Trader

end FuturesDesk
