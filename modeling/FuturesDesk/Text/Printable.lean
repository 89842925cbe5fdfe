import FuturesDesk.Text.Combining
import FuturesDesk.Text.Unshown

/-!
# Characters that print as they are

Between quotes a character stands for itself when it has something to show and
does not join the character in front of it.
-/

namespace FuturesDesk

/-- Whether a character is shown as it is between quotes. -/
def isPrintable (c : Char) : Bool :=
  if c.toNat < 0x7F then 0x20 ≤ c.toNat else !unshownSpans.has c && !isCombining c

/-- In ASCII the controls alone are not shown. -/
theorem isPrintable_eq_of_lt {c : Char} (h : c.toNat < 0x7F) : isPrintable c = decide (0x20 ≤ c.toNat) := by
  simp [isPrintable, h]

end FuturesDesk
