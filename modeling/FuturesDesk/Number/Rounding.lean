import FuturesDesk.Number.Power

/-!
# Rounded quotients

The natural nearest to a quotient of naturals. A tie, half way between two
naturals, goes as the caller says.
-/

namespace FuturesDesk

/-- Which of two equally near naturals is taken. -/
inductive Tie where
  | even
  /-- The greater one: away from zero. -/
  | up
deriving DecidableEq, Repr

/-- Whether a tie between `q` and `q + 1` goes to `q + 1`. -/
def Tie.goesUp : Tie → Nat → Bool
  | .even, q => q % 2 == 1
  | .up, _ => true

/-- The quotient `num / den` rounded to a natural. -/
def roundDiv (tie : Tie) (num den : Nat) : Nat :=
  let q := num / den
  let r := num % den
  if 2 * r < den then q
  else if den < 2 * r then q + 1
  else if tie.goesUp q then q + 1 else q

/-- The result is within half a unit of the quotient. -/
theorem roundDiv_bounds (tie : Tie) (num : Nat) {den : Nat} (h : 0 < den) :
    2 * num ≤ 2 * (roundDiv tie num den * den) + den ∧ 2 * (roundDiv tie num den * den) ≤ 2 * num + den := by
  have hq : num / den * den + num % den = num := Nat.div_add_mod' num den
  have hr : num % den < den := Nat.mod_lt num h
  have hs : (num / den + 1) * den = num / den * den + den := Nat.succ_mul _ _
  simp only [roundDiv]
  split
  · omega
  · split
    · omega
    · split <;> omega

/-- Half way between two naturals the even one is taken, if ties are even. -/
theorem roundDiv_even_of_tie {num den : Nat} (h : 2 * (num % den) = den) : roundDiv .even num den % 2 = 0 := by
  simp only [roundDiv, h, Nat.lt_irrefl, if_false, Tie.goesUp]
  by_cases hq : num / den % 2 = 1
  · simp [hq]; omega
  · simp [hq]; omega

/-- A quotient without remainder stays. -/
theorem roundDiv_mul_self (tie : Tie) (q : Nat) {den : Nat} (h : 0 < den) : roundDiv tie (q * den) den = q := by
  simp [roundDiv, Nat.mul_div_cancel q h, h]

end FuturesDesk
