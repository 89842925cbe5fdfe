/-!
# White space

The characters of the Unicode property White_Space, and texts without them at
their ends.
-/

namespace FuturesDesk

/-- The code points of White_Space. -/
def blankPoints : List Nat :=
  [0x09, 0x0A, 0x0B, 0x0C, 0x0D, 0x20, 0x85, 0xA0, 0x1680, 0x2000, 0x2001, 0x2002, 0x2003, 0x2004, 0x2005, 0x2006,
   0x2007, 0x2008, 0x2009, 0x200A, 0x2028, 0x2029, 0x202F, 0x205F, 0x3000]

def isBlankChar (c : Char) : Bool := blankPoints.contains c.toNat

/-- The blanks of ASCII text are among them. -/
theorem isBlankChar_of_isWhitespace {c : Char} (h : c.isWhitespace) : isBlankChar c := by
  simp only [Char.isWhitespace, Bool.or_eq_true, decide_eq_true_eq] at h
  rcases h with ((h | h) | h) | h <;> subst h <;> rfl

/-- The characters without white space in front. -/
def trimStart (cs : List Char) : List Char := cs.dropWhile isBlankChar

/-- The characters without white space at either end. -/
def trimBlanks (cs : List Char) : List Char := (trimStart (trimStart cs).reverse).reverse

end FuturesDesk
