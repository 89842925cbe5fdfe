import FuturesDesk.Proofs.TriggerReach

/-!
# Triggers by time

A trigger by time compares a period with the time between a fill and a tick. That
time is computed within 64 bits and held at their limits, but the answer is the
one of integers without limits. Once it is yes, it stays yes.
-/

namespace FuturesDesk.Trader

variable {t : Trader} {tick tick' : Tick}

def Overdue (t : Trader) (tick : Tick) : Prop :=
  1000 * (t.target.option.periodSecs.toNat : Int) < tick.time.toInt - t.primary.tradeTime.toNat

instance : Decidable (t.Overdue tick) := inferInstanceAs (Decidable (_ < _))

theorem Overdue.mono (h : t.Overdue tick) (hle : tick.time ≤ tick'.time) : t.Overdue tick' := by
  have hlater := Int64.le_iff_toInt_le.mp hle
  unfold Overdue at *
  omega

theorem periodElapsed_iff_overdue (htrade : t.primary.tradeTime.toNat < 2 ^ 63) :
    periodElapsed t.primary t.target.option tick = true ↔ t.Overdue tick := by
  rw [periodElapsed_iff htrade]
  unfold Overdue Automation.periodMillis
  omega

theorem balanceHit_congr {o : Order} {a : Automation} (h : tick'.close = tick.close) :
    balanceHit o a tick' = balanceHit o a tick := by
  unfold balanceHit
  rw [h]

/-- **The trigger by time is exact.** It fires if and only if more than the period
has passed since the fill, alone or beside a band. From then on it fires at every
price, and no trigger stops firing because time goes on. -/
theorem fires_iff_overdue (htrade : t.primary.tradeTime.toNat < 2 ^ 63) :
    (t.target.option.kind = .byTimePeriod → ∀ tick, t.shouldFire tick = true ↔ t.Overdue tick) ∧
    (t.target.option.kind = .byTimePeriodAndBalance → ∀ tick, t.shouldFire tick = true ↔
      balanceHit t.primary t.target.option tick = true ∨ t.Overdue tick) ∧
    (t.target.option.kind.usesTime = true → ∀ tick tick', t.Overdue tick → tick.time ≤ tick'.time →
      t.shouldFire tick' = true) ∧
    ∀ tick tick', t.shouldFire tick = true → tick.time ≤ tick'.time → tick'.close = tick.close →
      t.shouldFire tick' = true := by
  refine ⟨?_, ?_, ?_, ?_⟩
  · intro hkind tick
    rw [shouldFire_iff, hkind, periodElapsed_iff_overdue htrade]
    simp [AutomationKind.usesBalance, AutomationKind.usesTime]
  · intro hkind tick
    rw [shouldFire_iff, hkind, periodElapsed_iff_overdue htrade]
    simp [AutomationKind.usesBalance, AutomationKind.usesTime]
  · intro htime tick tick' hover hle
    rw [shouldFire_iff, periodElapsed_iff_overdue htrade]
    exact Or.inr ⟨htime, hover.mono hle⟩
  · intro tick tick' hfire hle hclose
    rw [shouldFire_iff, periodElapsed_iff_overdue htrade] at *
    rw [balanceHit_congr hclose]
    cases hfire with
    | inl hband => exact Or.inl hband
    | inr hover => exact Or.inr ⟨hover.1, hover.2.mono hle⟩

def timed (kind : AutomationKind) (filled periodSecs : UInt64) : Trader where
  target := ⟨{ code := "MXFL1", action := .buy, price := 100, quantity := 1, tradeTime := filled }, { kind, periodSecs }⟩
  inbox := 0

/-- The last tick time is beyond the longest period of whole seconds that ends
before it, and not beyond one second more. -/
theorem fires_iff_overdue_atLimits :
    (timed .byTimePeriod 0 9223372036854775).shouldFire { close := 0, time := Int64.maxValue } = true ∧
    ¬ (timed .byTimePeriod 0 9223372036854776).shouldFire { close := 0, time := Int64.maxValue } = true ∧
    ¬ (timed .byTimePeriod 9223372036854775807 1).shouldFire { close := 0, time := Int64.minValue } = true ∧
    (timed .byTimePeriodAndBalance 1000 5).shouldFire { close := 0, time := 9000 } = true := by
  refine ⟨?_, ?_, ?_, ?_⟩
  · apply ((fires_iff_overdue (by decide)).1 rfl _).mpr
    decide
  · intro h
    have hover := ((fires_iff_overdue (by decide)).1 rfl _).mp h
    revert hover
    decide
  · intro h
    have hover := ((fires_iff_overdue (by decide)).1 rfl _).mp h
    revert hover
    decide
  · exact (fires_iff_overdue (by decide)).2.2.1 rfl { close := 0, time := 6001 } _ (by decide) (by decide)

end FuturesDesk.Trader
