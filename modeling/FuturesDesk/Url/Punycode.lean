import FuturesDesk.Number.Power

/-!
# Punycode

Labels with characters beyond ASCII, written in letters and digits. The ASCII
characters come first; the others are inserted in ascending order, each by the
number of places passed over since the last one, in digits of base 36 whose
weights adapt to the size of these numbers.
-/

namespace FuturesDesk.Url.Punycode

def base : Nat := 36

def firstPoint : Nat := 128

def firstBias : Nat := 72

/-- A digit: letters first. -/
def digitChar (d : Nat) : Char := Char.ofNat (if d < 26 then 'a'.toNat + d else '0'.toNat + (d - 26))

def digitValue? (c : Char) : Option Nat :=
  if 'a' ≤ c && c ≤ 'z' then some (c.toNat - 'a'.toNat)
  else if 'A' ≤ c && c ≤ 'Z' then some (c.toNat - 'A'.toNat)
  else if '0' ≤ c && c ≤ '9' then some (c.toNat - '0'.toNat + 26)
  else none

/-- The threshold of the digit at place `k`, between 1 and 26. -/
def threshold (k bias : Nat) : Nat := max 1 (min 26 (k - bias))

theorem threshold_pos (k bias : Nat) : 1 ≤ threshold k bias := by unfold threshold; omega

theorem threshold_le (k bias : Nat) : threshold k bias ≤ 26 := by unfold threshold; omega

/-- Scales a number down to below 456; how often, times the base. -/
def scale (n k : Nat) : Nat × Nat := if 455 < n then scale (n / 35) (k + base) else (n, k)
termination_by n
decreasing_by exact Nat.div_lt_self (by omega) (by omega)

/-- The bias after a number, with `points` characters in place. -/
def adapt (n points : Nat) (first : Bool) : Nat :=
  let n := if first then n / 700 else n / 2
  let (n, k) := scale (n + n / points) 0
  k + base * n / (n + 38)

/-- A number in digits, from place `k` on. -/
def digits (bias k n : Nat) : List Char :=
  let t := threshold k bias
  if n < t then [digitChar n]
  else digitChar (t + (n - t) % (base - t)) :: digits bias (k + base) ((n - t) / (base - t))
termination_by n
decreasing_by
  have h1 := threshold_pos k bias
  exact Nat.lt_of_le_of_lt (Nat.div_le_self _ _) (by omega)

structure Writer where
  out : List Char
  /-- Places passed over since the last insertion. -/
  passed : Nat := 0
  bias : Nat := firstBias
  /-- Characters in place. -/
  points : Nat

/-- Passes over one character of the label while inserting the code point
`m`. -/
def Writer.pass (basic m : Nat) (w : Writer) (c : Char) : Writer :=
  if c.toNat < m then { w with passed := w.passed + 1 }
  else if c.toNat = m then
    { out := w.out ++ digits w.bias base w.passed
      passed := 0
      bias := adapt w.passed (w.points + 1) (w.points = basic)
      points := w.points + 1 }
  else w

/-- Inserts the code points of a list in ascending order, from `n` on. -/
def Writer.insertAll (label : List Char) (basic : Nat) (w : Writer) (n : Nat) : List Nat → Writer
  | [] => w
  | m :: ms =>
    let w := { w with passed := w.passed + (m - n) * (w.points + 1) }
    let w := label.foldl (Writer.pass basic m) w
    Writer.insertAll label basic { w with passed := w.passed + 1 } (m + 1) ms

def isAscii (c : Char) : Bool := c.toNat < firstPoint

/-- The code points of a label beyond ASCII, each once, in ascending order. -/
def beyond (label : List Char) : List Nat :=
  (((label.filter (!isAscii ·)).map Char.toNat).mergeSort (· ≤ ·)).eraseDups

def encode (label : List Char) : List Char :=
  let basic := label.filter isAscii
  let w : Writer := { out := if basic.isEmpty then [] else basic ++ ['-'], points := basic.length }
  (w.insertAll label basic.length firstPoint (beyond label)).out

/-! ## Reading -/

def limit : Nat := pow2 32

/-- A number in digits: its value added to `i`, and the rest. -/
def number? (bias k weight i : Nat) : List Char → Option (Nat × List Char)
  | [] => none
  | c :: cs =>
    match digitValue? c with
    | none => none
    | some d =>
      if limit ≤ weight || limit ≤ i + d * weight then none
      else if d < threshold k bias then some (i + d * weight, cs)
      else number? bias (k + base) (weight * (base - threshold k bias)) (i + d * weight) cs

/-- Inserts characters; `fuel` bounds their number. -/
def insertions? (fuel bias n i : Nat) (label cs : List Char) : Option (List Char) :=
  match fuel, cs with
  | _, [] => some label
  | 0, _ => none
  | fuel + 1, cs =>
    match number? bias base 1 i cs with
    | none => none
    | some (j, rest) =>
      let points := label.length + 1
      let n := n + j / points
      if n.isValidChar then
        insertions? fuel (adapt (j - i) points (i = 0)) n (j % points + 1)
          (label.insertIdx (j % points) (Char.ofNat n)) rest
      else none

/-- The label an encoded text stands for. A hyphen in front of everything parts
nothing, and is no digit either. -/
def decode? (cs : List Char) : Option (List Char) :=
  let tail := (cs.reverse.takeWhile (· ≠ '-')).reverse
  let head := cs.take (cs.length - tail.length - 1)
  if head.isEmpty && tail.length < cs.length then none
  else if head.all isAscii then insertions? tail.length firstBias firstPoint 0 head tail
  else none

end FuturesDesk.Url.Punycode
