/-!
# Powers of two and ten

The scales of doubles and decimals, and the limits of words.
-/

namespace FuturesDesk

def pow2 (k : Nat) : Nat := Nat.pow 2 k

def pow10 (k : Nat) : Nat := Nat.pow 10 k

theorem pow2_succ (k : Nat) : pow2 (k + 1) = pow2 k * 2 := rfl

theorem pow10_succ (k : Nat) : pow10 (k + 1) = pow10 k * 10 := rfl

theorem pow2_pos (k : Nat) : 0 < pow2 k := by
  induction k with
  | zero => decide
  | succ k ih => rw [pow2_succ]; omega

theorem pow10_pos (k : Nat) : 0 < pow10 k := by
  induction k with
  | zero => decide
  | succ k ih => rw [pow10_succ]; omega

end FuturesDesk
