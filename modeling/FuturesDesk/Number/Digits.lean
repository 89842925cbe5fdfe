/-!
# Decimal digits

Digits, the numbers they denote, and the digits of a number.
-/

namespace FuturesDesk

abbrev Digit := Fin 10

namespace Digit

def zero : Digit := ⟨0, by decide⟩

def last (n : Nat) : Digit := ⟨n % 10, Nat.mod_lt n (by decide)⟩

def toChar (d : Digit) : Char := Char.ofNat ('0'.toNat + d.val)

/-- The digit an ASCII character writes. -/
def ofChar? (c : Char) : Option Digit :=
  if h : '0'.toNat ≤ c.toNat ∧ c.toNat < '0'.toNat + 10 then
    some ⟨c.toNat - '0'.toNat, by omega⟩
  else none

/-- The number a list of digits denotes, most significant digit first. -/
def value (ds : List Digit) : Nat := ds.foldl (fun n d => 10 * n + d.val) 0

/-- The digits of `n` in front of `tail`; `fuel` bounds their number. -/
def spread : Nat → Nat → List Digit → List Digit
  | 0, _, tail => tail
  | fuel + 1, n, tail =>
    let tail := last n :: tail
    if n < 10 then tail else spread fuel (n / 10) tail

/-- The digits of a number, without leading zeros. -/
def ofNat (n : Nat) : List Digit := spread (n + 1) n []

def chars (ds : List Digit) : List Char := ds.map toChar

end Digit

end FuturesDesk
