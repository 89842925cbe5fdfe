import FuturesDesk.Number.Numeral

/-!
# Numbers in messages

Plain texts of doubles and integers, and doubles with two places.
-/

namespace FuturesDesk

def intText (i : Int) : String := String.ofList (Numeral.ofInt i).chars

/-- The plain text of a double: `17800`, `0.1`, `-0`, `NaN`, `inf`. -/
def plainText (x : Float) : String :=
  match Numeral.ofFloat? .plain x, Binary64.ofFloat x with
  | some n, _ => String.ofList n.chars
  | none, .infinite negative => if negative then "-inf" else "inf"
  | none, _ => "NaN"

/-- The text of a double with two places: the exact value is rounded, and a
tie goes to the even neighbour. -/
def twoPlaces (x : Float) : String :=
  match Binary64.ofFloat x with
  | .finite negative mant exp =>
    let n := roundDiv .even (mant * 100 * pow2 exp.toNat) (pow2 (-exp).toNat)
    let places := [Digit.last (n / 10), Digit.last n]
    String.ofList (Numeral.chars ⟨negative, Digit.ofNat (n / 100), places, none⟩)
  | .infinite negative => if negative then "-inf" else "inf"
  | .nan => "NaN"

end FuturesDesk
