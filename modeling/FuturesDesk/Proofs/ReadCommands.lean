import FuturesDesk.Client.Command

/-!
# Commands that are read

A text reads as a command if it decodes and the command has none of the flaws:
then its code is not blank, its quantity is positive, its price is finite and not
negative, and the numbers its option uses have the right signs.
-/

namespace FuturesDesk

deriving instance DecidableEq for Automation

def IsPrice (x : Float) : Prop := isFinite x = true ∧ ¬ x < 0

instance : DecidablePred IsPrice := fun _ => inferInstanceAs (Decidable (_ ∧ _))

namespace Command

variable {text : String} {c : Command} {a : Automation}

theorem ofText_eq_ok_iff : ofText text = .ok c ↔ decoder.run text = .ok c ∧ c.flaw? = none := by
  unfold ofText
  cases decoder.run text with
  | error p => simp
  | ok d =>
    rw [Except.ok.injEq]
    dsimp only
    constructor
    · intro h
      cases hf : d.flaw? with
      | none =>
        rw [hf, Except.ok.injEq] at h
        exact ⟨h, h ▸ hf⟩
      | some f =>
        rw [hf] at h
        cases h
    · rintro ⟨rfl, hf⟩
      rw [hf]

theorem optionFlaw?_eq_none_iff : optionFlaw? a = none ↔
    (a.kind.usesBalance = true → ¬ a.balanceHigh < 0 ∧ ¬ a.balanceLow < 0) ∧
      (a.kind.usesTime = true → a.periodSecs ≠ 0) := by
  unfold optionFlaw?
  rw [← not_or]
  by_cases hb : a.balanceHigh < 0 ∨ a.balanceLow < 0
  · cases a.kind.usesBalance <;> by_cases hs : a.periodSecs = 0 <;> simp [hb, hs]
  · cases a.kind.usesTime <;> by_cases hs : a.periodSecs = 0 <;> simp [hb, hs]

theorem flaw?_eq_none_iff : c.flaw? = none ↔
    (trimBlanks c.code.toList).isEmpty = false ∧ 0 < c.quantity ∧ IsPrice c.price ∧
      ∀ a, c.option = some a → optionFlaw? a = none := by
  unfold flaw? IsPrice
  rw [← Int64.not_le]
  cases (trimBlanks c.code.toList).isEmpty with
  | true => simp
  | false =>
    by_cases hq : c.quantity ≤ 0
    · simp [hq]
    · cases isFinite c.price <;> by_cases hp : c.price < 0 <;> cases c.option <;> simp [hq, hp]

theorem optionFlaw?_of_ofText (h : ofText text = .ok c) (ho : c.option = some a) : optionFlaw? a = none :=
  (flaw?_eq_none_iff.mp (ofText_eq_ok_iff.mp h).2).2.2.2 a ho

theorem exists_ofText_of_option (text : String) (a : Automation)
    (h : (ofText text).toOption.bind Command.option = some a) : ∃ c, ofText text = .ok c ∧ c.option = some a := by
  cases hc : ofText text with
  | error f =>
    rw [hc] at h
    cases h
  | ok c =>
    rw [hc] at h
    exact ⟨c, rfl, h⟩

theorem isPrice_of_ofText (h : ofText text = .ok c) : IsPrice c.price :=
  (flaw?_eq_none_iff.mp (ofText_eq_ok_iff.mp h).2).2.2.1

theorem quantity_pos_of_ofText (h : ofText text = .ok c) : 0 < c.quantity :=
  (flaw?_eq_none_iff.mp (ofText_eq_ok_iff.mp h).2).2.1

/-- The text of a command to buy one unit with an automation option of these
members. -/
def buyWith (members : String) : String :=
  "\x7b\"instrumentCode\":\"MXFL1\",\"action\":\"Buy\",\"price\":100,\"quantity\":1,\"automationOption\":\x7b" ++
    members ++ "\x7d\x7d"

end Command

end FuturesDesk
