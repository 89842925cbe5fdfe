import FuturesDesk.Number.Rounding

/-!
# Doubles as exact numbers

A finite double is a sign and a magnitude `mant * 2 ^ exp`. Going back, a
quotient of naturals has one nearest double, a tie going to the even one.
-/

namespace FuturesDesk

/-- The value of a double. -/
inductive Binary64 where
  | finite (negative : Bool) (mant : Nat) (exp : Int)
  | infinite (negative : Bool)
  | nan

namespace Binary64

/-- The value a double holds, read off its bits. -/
def ofFloat (x : Float) : Binary64 :=
  let bits : Nat := x.toBits.toNat
  let negative := bits / pow2 63 % 2 == 1
  let exponent : Nat := bits / pow2 52 % pow2 11
  let fraction : Nat := bits % pow2 52
  if exponent == 2047 then
    if fraction == 0 then .infinite negative else .nan
  else if exponent == 0 then .finite negative fraction (-1074)
  else .finite negative (pow2 52 + fraction) (exponent - 1075)

/-- The whole part of the binary logarithm of `num / den`. -/
def log2Div (num den : Nat) : Int :=
  let e : Int := num.log2 - den.log2
  if den * pow2 e.toNat ≤ num * pow2 (-e).toNat then e else e - 1

/-- The bits of the double nearest to `num / den`, without a sign. -/
def nearestBits (num den : Nat) : Nat :=
  if num == 0 then 0
  else
    let q := max (log2Div num den - 52) (-1074)
    let m := roundDiv .even (num * pow2 (-q).toNat) (den * pow2 q.toNat)
    min ((q + 1074).toNat * pow2 52 + m) (2047 * pow2 52)

/-- The double nearest to `num / den`, negated where `negative` says so. -/
def nearest (negative : Bool) (num den : Nat) : Float :=
  Float.ofBits (UInt64.ofNat (nearestBits num den + if negative then pow2 63 else 0))

/-- The double nearest to `mant * 10 ^ exp`. Magnitudes far outside the range
of doubles are settled by their number of digits. -/
def nearestDecimal (negative : Bool) (mant : Nat) (exp : Int) : Float :=
  let top : Int := mant.log2 * 30103 / 100000 + exp
  if mant == 0 || top < -330 then nearest negative 0 1
  else if 310 < top then nearest negative (pow2 1024) 1
  else nearest negative (mant * pow10 exp.toNat) (pow10 (-exp).toNat)

end Binary64

/-- Neither infinite nor a NaN. -/
def isFinite (x : Float) : Bool :=
  match Binary64.ofFloat x with
  | .finite .. => true
  | _ => false

end FuturesDesk
