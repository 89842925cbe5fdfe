import FuturesDesk.Number.Digits
import FuturesDesk.Number.Shortest

/-!
# Numerals

A written decimal: a sign, digits before and behind the point, and an
exponent. Numbers are written as numerals; numerals are read as exact
integers or as doubles.
-/

namespace FuturesDesk

structure Numeral where
  negative : Bool
  whole : List Digit
  /-- Without digits behind it the point is not written. -/
  fraction : List Digit
  /-- Whether the exponent is negative, and its digits. -/
  exponent : Option (Bool × List Digit)
deriving DecidableEq

namespace Numeral

/-- The characters of a numeral; an exponent always shows its sign. -/
def chars (n : Numeral) : List Char :=
  (if n.negative then ['-'] else []) ++ Digit.chars n.whole ++
    (if n.fraction.isEmpty then [] else '.' :: Digit.chars n.fraction) ++
    match n.exponent with
    | none => []
    | some (negative, ds) => 'e' :: (if negative then '-' else '+') :: Digit.chars ds

def ofNat (n : Nat) : Numeral := ⟨false, Digit.ofNat n, [], none⟩

def ofInt (i : Int) : Numeral := ⟨i < 0, Digit.ofNat i.natAbs, [], none⟩

/-! ## Writing doubles -/

/-- The choices of a format that writes the shortest digits of a double. -/
structure Layout where
  /-- The decades of the leading digit that are written positionally. -/
  positional : Int → Bool
  /-- A whole number written positionally ends in `.0`. -/
  wholeKeepsPoint : Bool
  /-- The last digit where two are equally near. -/
  tie : Tie

/-- Plain text: never an exponent, a whole number has no point, and a tie goes
up. -/
def Layout.plain : Layout := ⟨fun _ => true, false, .up⟩

/-- JSON text: positional from `1e-5` to below `1e16`, a whole number with
`.0`, and a tie goes to the even digit. -/
def Layout.json : Layout := ⟨fun e => -5 ≤ e && e < 16, true, .even⟩

/-- Digits with the first one in the given decade, written positionally. -/
def positional (l : Layout) (negative : Bool) (ds : List Digit) (decade : Int) : Numeral :=
  if decade < 0 then ⟨negative, [Digit.zero], List.replicate (-decade - 1).toNat Digit.zero ++ ds, none⟩
  else
    let n := decade.toNat + 1
    let fraction := ds.drop n
    ⟨negative, ds.take n ++ List.replicate (n - ds.length) Digit.zero,
      if fraction.isEmpty && l.wholeKeepsPoint then [Digit.zero] else fraction, none⟩

/-- The same digits with one before the point and an exponent. -/
def scientific (negative : Bool) (ds : List Digit) (decade : Int) : Numeral :=
  ⟨negative, ds.take 1, ds.drop 1, some (decade < 0, Digit.ofNat decade.natAbs)⟩

/-- The numeral of a finite double in the given layout. -/
def ofFloat? (l : Layout) (x : Float) : Option Numeral :=
  match Binary64.ofFloat x with
  | .finite negative 0 _ => some (positional l negative [Digit.zero] 0)
  | .finite negative mant exp =>
    let d := Shortest.shortest l.tie ⟨mant, exp⟩
    let ds := Digit.ofNat d.digits
    let decade := d.exp + ds.length - 1
    some (if l.positional decade then positional l negative ds decade else scientific negative ds decade)
  | _ => none

/-! ## Reading -/

/-- A significand of at most 64 bits and the decimal exponent it is taken to. -/
structure Scaled where
  significand : Nat
  exp : Int

/-- Reads digits before the point: from the first one that overflows 64 bits
on they only count. -/
def Scaled.whole (s : Scaled) : List Digit → Scaled
  | [] => s
  | d :: ds =>
    let next := 10 * s.significand + d.val
    if next < pow2 64 then Scaled.whole { s with significand := next } ds
    else { s with exp := s.exp + 1 + ds.length }

/-- Reads digits behind the point: from the first one that overflows 64 bits
on they are dropped. -/
def Scaled.fraction (s : Scaled) : List Digit → Scaled
  | [] => s
  | d :: ds =>
    let next := 10 * s.significand + d.val
    if next < pow2 64 then Scaled.fraction ⟨next, s.exp - 1⟩ ds else s

def tenPow (k : Nat) : Float := Binary64.nearest false (pow10 k) 1

/-- A significand scaled in one multiplication or division by a power of ten,
or two divisions below the range of doubles; none if it overflows. -/
def Scaled.toFloat? (s : Scaled) : Option Float :=
  let f := Binary64.nearest false s.significand 1
  if s.significand == 0 then some f
  else if 308 < s.exp then none
  else if 0 ≤ s.exp then
    let x := f * tenPow s.exp.toNat
    if isFinite x then some x else none
  else if -308 ≤ s.exp then some (f / tenPow (-s.exp).toNat)
  else if -616 ≤ s.exp then some (f / tenPow 308 / tenPow (-s.exp - 308).toNat)
  else some (Binary64.nearest false 0 1)

/-- The double a numeral is read as; none beyond the range of doubles. -/
def toFloat? (n : Numeral) : Option Float :=
  let s := (Scaled.whole ⟨0, 0⟩ n.whole).fraction n.fraction
  let s := match n.exponent with
    | none => s
    | some (negative, ds) =>
      let e := Digit.value ds
      { s with exp := s.exp + if negative then -(e : Int) else (e : Int) }
  s.toFloat?.map fun x => if n.negative then -x else x

/-- What a numeral is read as. -/
inductive Value where
  | unsigned (n : Nat)
  | negative (i : Int)
  | real (x : Float)

/-- Integer literals of 64 bits are integers, signed below zero and unsigned
from zero up; all else is a double, `-0` too. -/
def value? (n : Numeral) : Option Value :=
  let m := Digit.value n.whole
  if n.fraction.isEmpty && n.exponent.isNone then
    if n.negative then
      if 0 < m && m ≤ pow2 63 then some (.negative (-m)) else n.toFloat?.map .real
    else if m < pow2 64 then some (.unsigned m)
    else n.toFloat?.map .real
  else n.toFloat?.map .real

end Numeral

/-- The double nearest to an integer of 64 bits. -/
def Numeral.Value.toFloat : Value → Float
  | .unsigned n => Binary64.nearest false n 1
  | .negative i => Binary64.nearest true i.natAbs 1
  | .real x => x

end FuturesDesk
