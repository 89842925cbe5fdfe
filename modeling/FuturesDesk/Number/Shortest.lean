import FuturesDesk.Number.Binary64

/-!
# Shortest decimals

The fewest digits that read back as a given magnitude `mant * 2 ^ exp`. The
reals that round to it form an interval; for 1, 2, … 17 digits the two
neighbours of the value on that decimal grid are tried, and the first grid
with a hit wins. Of two hits the nearer one counts; where a tie goes is up to
the format.
-/

namespace FuturesDesk.Shortest

/-- A decimal `digits * 10 ^ exp`. -/
structure Decimal where
  digits : Nat
  exp : Int

/-- A positive magnitude `mant * 2 ^ exp` of the doubles. -/
structure Magnitude where
  mant : Nat
  exp : Int

namespace Magnitude

/-- `x * 2 ^ (exp - 2)` in units of `10 ^ k`, as a fraction: in quarters of
the magnitude's last binary place the ends of its interval are whole. -/
def quarters (v : Magnitude) (x : Nat) (k : Int) : Nat × Nat :=
  (x * pow2 (v.exp - 2).toNat * pow10 (-k).toNat, pow2 (2 - v.exp).toNat * pow10 k.toNat)

/-- Lower end of the interval of reals that round to the magnitude. -/
def lower (v : Magnitude) : Nat :=
  if v.mant == pow2 52 && v.exp != -1074 then 4 * v.mant - 1 else 4 * v.mant - 2

def upper (v : Magnitude) : Nat := 4 * v.mant + 2

/-- Whether `d * 10 ^ k` rounds to the magnitude. The ends belong to the
interval iff the last binary digit is even. -/
def holds (v : Magnitude) (d : Nat) (k : Int) : Bool :=
  let (lo, den) := v.quarters v.lower k
  let (hi, _) := v.quarters v.upper k
  if v.mant % 2 == 0 then lo ≤ d * den && d * den ≤ hi
  else lo < d * den && d * den < hi

def decade (v : Magnitude) : Int :=
  let e : Int := (v.mant.log2 + v.exp) * 30103 / 100000
  let (num, den) := v.quarters (4 * v.mant) (e + 1)
  if den ≤ num then e + 1 else e

/-- The nearer of the neighbours of the magnitude on the grid `10 ^ k` that
round to it, if one does. -/
def onGrid? (tie : Tie) (v : Magnitude) (k : Int) : Option Decimal :=
  let (num, den) := v.quarters (4 * v.mant) k
  let d := num / den
  let near := roundDiv tie num den
  let far := if near == d then d + 1 else d
  if v.holds near k then some ⟨near, k⟩
  else if v.holds far k then some ⟨far, k⟩
  else none

/-- The first grid, from one digit on, with a hit. -/
def search (tie : Tie) (v : Magnitude) (e : Int) : Nat → Nat → Decimal
  | 0, n => let k := e - n + 1
            let (num, den) := v.quarters (4 * v.mant) k
            ⟨roundDiv tie num den, k⟩
  | fuel + 1, n => (v.onGrid? tie (e - n + 1)).getD (v.search tie e fuel (n + 1))

end Magnitude

/-- The same decimal without zeros at its end. -/
def Decimal.trim : Nat → Decimal → Decimal
  | 0, d => d
  | fuel + 1, d =>
    if d.digits != 0 && d.digits % 10 == 0 then Decimal.trim fuel ⟨d.digits / 10, d.exp + 1⟩ else d

/-- The shortest decimal that reads back as a positive magnitude. -/
def shortest (tie : Tie) (v : Magnitude) : Decimal := (v.search tie v.decade 16 1).trim 20

end FuturesDesk.Shortest
