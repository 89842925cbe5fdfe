import FuturesDesk.Text.Normal
import FuturesDesk.Text.Unshown
import FuturesDesk.Url.Mapping.Letters
import FuturesDesk.Url.Mapping.Shifts
import FuturesDesk.Url.Mapping.Words

/-!
# Plain forms of names

Names that look or sound the same are one name: what a character becomes in a
name, and which characters no name may hold, as in the mapping table of
Unicode's UTS #46.
-/

namespace FuturesDesk.Url

namespace Mapping

/-- Characters that vanish in a name. -/
def ignoredSpans : Spans :=
  [(0xAD, 0xAD), (0x34F, 0x34F), (0x115F, 0x1160), (0x17B4, 0x17B5), (0x180B, 0x180F), (0x200B, 0x200B),
   (0x2060, 0x2064), (0x206A, 0x206F), (0x3164, 0x3164), (0xFE00, 0xFE0F), (0xFEFF, 0xFEFF), (0xFFA0, 0xFFA0),
   (0x1BCA0, 0x1BCA3), (0x1D173, 0x1D17A), (0xE0100, 0xE01EF)]

/-- Visible characters that no name may hold: their plain form has a mark of an
address in it, or they describe other characters. -/
def refusedSpans : Spans :=
  [(0xA8, 0xA8), (0xAF, 0xAF), (0xB4, 0xB4), (0xB8, 0xB8), (0x2D8, 0x2DD), (0x37A, 0x37A), (0x384, 0x385),
   (0x1FBD, 0x1FBD), (0x1FBF, 0x1FC1), (0x1FCD, 0x1FCF), (0x1FDD, 0x1FDF), (0x1FED, 0x1FEE), (0x1FFD, 0x1FFE),
   (0x2017, 0x2017), (0x2024, 0x2026), (0x203E, 0x203E), (0x2047, 0x2049), (0x2100, 0x2101), (0x2105, 0x2106),
   (0x2488, 0x249B), (0x2A74, 0x2A74), (0x2FF0, 0x2FFF), (0x309B, 0x309C), (0x31EF, 0x31EF), (0x33C2, 0x33C2),
   (0x33C7, 0x33C7), (0x33D8, 0x33D8), (0xFC5E, 0xFC63), (0xFDFA, 0xFDFB), (0xFE12, 0xFE13), (0xFE16, 0xFE16),
   (0xFE19, 0xFE19), (0xFE30, 0xFE30), (0xFE47, 0xFE4C), (0xFE52, 0xFE52), (0xFE55, 0xFE56), (0xFE5F, 0xFE5F),
   (0xFE64, 0xFE65), (0xFE68, 0xFE68), (0xFE6A, 0xFE6B), (0xFE70, 0xFE70), (0xFE72, 0xFE72), (0xFE74, 0xFE74),
   (0xFE76, 0xFE76), (0xFE78, 0xFE78), (0xFE7A, 0xFE7A), (0xFE7C, 0xFE7C), (0xFE7E, 0xFE7E), (0xFFE3, 0xFFE3),
   (0xFFFC, 0xFFFD), (0x1F100, 0x1F100)]

/-- The plain form of a character in a run. -/
def shifted? (n : Nat) : Option Char :=
  (shifts.find? fun (first, last, _) => first ≤ n && n ≤ last).map fun (first, _, plain) =>
    Char.ofNat (n - first + plain)

/-- The small letter of a character in a run of pairs. -/
def paired? (n : Nat) : Option Char :=
  (casePairs.find? fun (first, last) => first ≤ n && n ≤ last).map fun (first, _) =>
    Char.ofNat (if (n - first) % 2 = 0 then n + 1 else n)

/-- The plain character in a row. -/
def letter? (n : Nat) : Option Char :=
  letterRows.findSome? fun (first, row) => if first ≤ n && n < first + rowLength then row.toList[n - first]? else none

/-- The word in a row. -/
def word? (n : Nat) : Option String :=
  wordRows.findSome? fun (first, row) => if first ≤ n then row[n - first]? else none

end Mapping

/-- What a character becomes in a name. -/
def mapChar (c : Char) : List Char :=
  let n := c.toNat
  if n < 0x80 then [c.toLower]
  else if Mapping.ignoredSpans.has c then []
  else
    match ((Mapping.shifted? n).or (Mapping.paired? n)).or (Mapping.letter? n), Mapping.word? n with
    | some plain, _ => [plain]
    | none, some word => word.toList
    | none, none => [c]

/-- In ASCII the capitals alone change. -/
theorem mapChar_of_lt {c : Char} (h : c.toNat < 0x80) : mapChar c = [c.toLower] := by
  simp [mapChar, h]

/-- The name a text stands for, in plain and normal form. -/
def mapName (cs : List Char) : List Char := normal (cs.flatMap mapChar)

/-- Visible characters that no host may hold. -/
def hostMarks : List Char := [' ', '#', '/', ':', '<', '>', '?', '@', '[', '\\', ']', '^', '|']

/-- Characters without a form of their own that say how their neighbours
join. -/
def isJoiner (c : Char) : Bool := c.toNat = 0x200C || c.toNat = 0x200D

/-- Characters that no name may hold: marks of an address, and what has nothing
to show but is no joiner. -/
def isForbidden (c : Char) : Bool :=
  c = '%' || hostMarks.contains c || Mapping.refusedSpans.has c || (unshownSpans.has c && !isJoiner c)

end FuturesDesk.Url
