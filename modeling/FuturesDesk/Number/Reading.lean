import FuturesDesk.Number.Digits
import FuturesDesk.Number.Binary64
import FuturesDesk.Text.Blank

/-!
# Numbers in texts

Doubles and integers as they stand in texts: with either sign, doubles also
without digits on one side of the point, and as `inf`, `infinity` and `nan` in
any case.
-/

namespace FuturesDesk

/-- The digits in front, and the rest. -/
def spanDigits : List Char → List Digit × List Char
  | [] => ([], [])
  | c :: cs =>
    match Digit.ofChar? c with
    | some d => let (ds, rest) := spanDigits cs; (d :: ds, rest)
    | none => ([], c :: cs)

/-- A sign in front, and the rest. -/
def takeSign : List Char → Bool × List Char
  | '-' :: cs => (true, cs)
  | '+' :: cs => (false, cs)
  | cs => (false, cs)

/-- An exponent that takes up the whole text, or its absence. -/
def readExponent? : List Char → Option Int
  | [] => some 0
  | c :: cs =>
    if c = 'e' || c = 'E' then
      let (negative, cs) := takeSign cs
      match spanDigits cs with
      | ([], _) => none
      | (ds, []) => some (if negative then -(Digit.value ds : Int) else (Digit.value ds : Int))
      | _ => none
    else none

/-- An unsigned decimal: at least one digit on some side of the point. -/
def readDecimal? (negative : Bool) (cs : List Char) : Option Float :=
  let (whole, rest) := spanDigits cs
  let (fraction, rest) := match rest with
    | '.' :: rest => spanDigits rest
    | rest => ([], rest)
  if whole.isEmpty && fraction.isEmpty then none
  else do
    let e ← readExponent? rest
    return Binary64.nearestDecimal negative (Digit.value (whole ++ fraction)) (e - fraction.length)

def readFloat? (cs : List Char) : Option Float :=
  let (negative, cs) := takeSign cs
  let word := String.ofList (cs.map Char.toLower)
  if word = "inf" || word = "infinity" then some (Binary64.nearest negative (pow2 1024) 1)
  else if word = "nan" then some (Float.ofBits 0x7FF8000000000000)
  else readDecimal? negative cs

def readInt64? (cs : List Char) : Option Int64 :=
  let (negative, cs) := takeSign cs
  match spanDigits cs with
  | ([], _) => none
  | (ds, []) =>
    let i : Int := if negative then -(Digit.value ds : Int) else (Digit.value ds : Int)
    if -(pow2 63 : Nat) ≤ i ∧ i < (pow2 63 : Nat) then some (Int64.ofInt i) else none
  | _ => none

end FuturesDesk
