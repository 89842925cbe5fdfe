import FuturesDesk.Brokerage.Query
import FuturesDesk.Json.Scan

/-!
# Numeric hosts

Addresses of four bytes, in one to four parts of base 8, 10 or 16, and of eight
groups of 16 bits, where one run of zeros may be left out.
-/

namespace FuturesDesk.Url

/-! ## Four bytes -/

/-- The value of a text of digits in a base up to 16. -/
def valueIn? (base : Nat) (cs : List Char) : Option Nat :=
  cs.foldlM (fun n c => match Json.hexValue? c with
    | some d => if d < base then some (base * n + d) else none
    | none => none) 0

/-- The value of a part. It is empty behind the mark of a base for zero. -/
def partValue? (cs : List Char) : Option Nat :=
  match cs with
  | [] => none
  | '0' :: 'x' :: ds | '0' :: 'X' :: ds => valueIn? 16 ds
  | '0' :: d :: ds => valueIn? 8 (d :: ds)
  | ds => valueIn? 10 ds

/-- The parts of a host between dots, without an empty one at the end. -/
def hostParts (cs : List Char) : List (List Char) :=
  let parts := Query.split '.' cs
  match parts.reverse with
  | [] :: p :: ps => (p :: ps).reverse
  | _ => parts

/-- Whether a host is meant as a number: its last part is one. -/
def endsInNumber (cs : List Char) : Bool :=
  match (hostParts cs).reverse with
  | p :: _ => (partValue? p).isSome || (!p.isEmpty && p.all Char.isDigit)
  | [] => false

/-- Every part but the last is one byte, and the last fills what is left. -/
def combine? : List Nat → Nat → Option Nat
  | [], _ => none
  | [n], left => if n < pow2 (8 * left) then some n else none
  | n :: ns, left =>
    if n < 256 then (combine? ns (left - 1)).map (n * pow2 (8 * (left - 1)) + ·) else none

def fourBytes? (cs : List Char) : Option Nat := do
  let parts := hostParts cs
  if 4 < parts.length then none
  let values ← parts.mapM partValue?
  combine? values 4

def dotted (n : Nat) : String :=
  String.intercalate "." ([3, 2, 1, 0].map fun k => toString (n / pow2 (8 * k) % 256))

/-! ## Eight groups -/

/-- The groups of a text without a gap; four bytes may stand for the last two
where `tail` says so. -/
def groups? (tail : Bool) (cs : List Char) : Option (List Nat) :=
  if cs.isEmpty then some []
  else
    let parts := Query.split ':' cs
    let group? (p : List Char) : Option (List Nat) :=
      if p.isEmpty || 4 < p.length then none else (valueIn? 16 p).map fun v => [v]
    let bytes? (p : List Char) : Option (List Nat) := do
      let ps := Query.split '.' p
      if ps.length ≠ 4 || ps.any fun q => q.isEmpty || 3 < q.length || (1 < q.length && q.head? = some '0') then none
      let bs ← ps.mapM (valueIn? 10)
      match bs with
      | [a, b, c, d] => if bs.all (· < 256) then some [256 * a + b, 256 * c + d] else none
      | _ => none
    match parts.reverse with
    | last :: front => do
      let front ← (front.reverse.mapM group?)
      let last ← if tail && last.contains '.' then bytes? last else group? last
      return front.flatten ++ last
    | [] => none

/-- Cuts a text at its first two colons in a row. -/
def gap? : List Char → Option (List Char × List Char)
  | [] => none
  | ':' :: ':' :: cs => some ([], cs)
  | c :: cs => (gap? cs).map fun p => (c :: p.1, p.2)

def eightGroups? (cs : List Char) : Option (List Nat) := do
  match gap? cs with
  | some (front, back) =>
    let front ← groups? false front
    let back ← groups? true back
    if 7 < front.length + back.length then none
    return front ++ List.replicate (8 - front.length - back.length) 0 ++ back
  | none =>
    let gs ← groups? true cs
    if gs.length = 8 then some gs else none

/-- The number of zeros a list begins with. -/
def zeroRun (gs : List Nat) : Nat := (gs.takeWhile (· = 0)).length

/-- Where the first of the longest runs of zeros begins, and its length. -/
def longestRun (gs : List Nat) : Nat × Nat :=
  (List.range gs.length).foldl (fun best i =>
    let n := zeroRun (gs.drop i)
    if best.2 < n then (i, n) else best) (0, 0)

def groupText (n : Nat) : List Char := Nat.toDigits 16 n

/-- The groups in base 16, with two colons for the longest run of at least two
zeros. -/
def groupsText (gs : List Nat) : String :=
  let join (gs : List Nat) : List Char := List.intercalate [':'] (gs.map groupText)
  let (i, n) := longestRun gs
  String.ofList (if 1 < n then join (gs.take i) ++ "::".toList ++ join (gs.drop (i + n)) else join gs)

end FuturesDesk.Url
