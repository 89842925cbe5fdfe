import FuturesDesk.Text.Composition
import FuturesDesk.Text.MarkClass

/-!
# Normal form

Two texts that differ only in how letters are put together have one normal
form, the Unicode form NFC: every character is taken apart, marks behind a
letter are sorted by class, and what can stand as one character is joined
again.
-/

namespace FuturesDesk

namespace Normal

/-- What a character is made of, at most `depth` marks deep. -/
def parts : Nat → Char → List Char
  | 0, c => [c]
  | depth + 1, c =>
    match Composition.split? c with
    | some (base, mark) => parts depth base ++ [mark]
    | none => [c]

theorem parts_of_lt {c : Char} (h : c.toNat < 0xC0) (depth : Nat) : parts depth c = [c] := by
  cases depth with
  | zero => rfl
  | succ depth => simp [parts, Composition.split?_of_lt h]

/-- No character holds more than three marks. -/
def maxDepth : Nat := 3

/-! ## Order of marks -/

/-- Puts a character behind a text, last one first: a mark goes in front of
the marks of greater classes. -/
def place (c : Char) : List Char → List Char
  | [] => [c]
  | d :: ds => if 0 < markClass c && markClass c < markClass d then d :: place c ds else c :: d :: ds

theorem perm_place (c : Char) (ds : List Char) : (place c ds).Perm (c :: ds) := by
  induction ds with
  | nil => exact .refl _
  | cons d ds ih =>
    simp only [place]
    split
    · exact (ih.cons d).trans (.swap c d ds)
    · exact .refl _

theorem place_of_class_zero {c : Char} (h : markClass c = 0) (ds : List Char) : place c ds = c :: ds := by
  cases ds with
  | nil => rfl
  | cons d ds => simp [place, h]

/-- A text with its marks in order. -/
def sorted (cs : List Char) : List Char := (cs.foldl (fun ds c => place c ds) []).reverse

theorem foldl_place_of_class_zero {cs : List Char} (h : ∀ c ∈ cs, markClass c = 0) (ds : List Char) :
    cs.foldl (fun ds c => place c ds) ds = cs.reverse ++ ds := by
  induction cs generalizing ds with
  | nil => rfl
  | cons c cs ih =>
    rw [List.foldl_cons, place_of_class_zero (h c (by simp)), ih fun d hd => h d (by simp [hd])]
    simp

/-- Without marks there is nothing to sort. -/
theorem sorted_of_class_zero {cs : List Char} (h : ∀ c ∈ cs, markClass c = 0) : sorted cs = cs := by
  simp [sorted, foldl_place_of_class_zero h]

/-! ## Joining -/

/-- A text joined so far, in parts that each begin with their last
character. -/
structure Joined where
  done : List Char := []
  /-- The last character of class zero. -/
  base : Option Char := none
  /-- The marks behind it that it did not take. -/
  marks : List Char := []

namespace Joined

def toList (j : Joined) : List Char := (j.marks ++ j.base.toList ++ j.done).reverse

/-- A mark left behind a letter stands between it and marks of the same class
and letters. -/
def isBlocked (j : Joined) (c : Char) : Bool := j.marks.head?.any fun m => markClass c ≤ markClass m

def push (j : Joined) (c : Char) : Joined :=
  match j.base with
  | none => if markClass c = 0 then { j with base := some c } else { j with done := c :: j.done }
  | some b =>
    match if j.isBlocked c then none else Composition.join? b c with
    | some whole => { j with base := some whole }
    | none =>
      if markClass c = 0 then { done := j.marks ++ b :: j.done, base := some c }
      else { j with marks := c :: j.marks }

theorem push_of_lt {j : Joined} (hj : j.marks = []) {c : Char} (h : c.toNat < 0x300) :
    (j.push c).marks = [] ∧ (j.push c).toList = j.toList ++ [c] := by
  have hz := markClass_eq_zero_of_lt h
  cases hb : j.base with
  | none => simp [push, toList, hb, hj, hz]
  | some b => simp [push, toList, hb, hj, hz, Composition.join?_of_lt b h]

theorem foldl_push_of_lt {cs : List Char} (h : ∀ c ∈ cs, c.toNat < 0x300) {j : Joined} (hj : j.marks = []) :
    (cs.foldl push j).toList = j.toList ++ cs := by
  induction cs generalizing j with
  | nil => simp
  | cons c cs ih =>
    obtain ⟨hm, ht⟩ := push_of_lt hj (h c (by simp))
    rw [List.foldl_cons, ih (fun d hd => h d (by simp [hd])) hm, ht]
    simp

end Joined

def joined (cs : List Char) : List Char := (cs.foldl Joined.push {}).toList

end Normal

/-- The normal form of a text. -/
def normal (cs : List Char) : List Char := Normal.joined (Normal.sorted (cs.flatMap (Normal.parts Normal.maxDepth)))

/-- A text below U+00C0 is in normal form, ASCII among others. -/
theorem normal_of_lt {cs : List Char} (h : ∀ c ∈ cs, c.toNat < 0xC0) : normal cs = cs := by
  have hp : cs.flatMap (Normal.parts Normal.maxDepth) = cs := by
    induction cs with
    | nil => rfl
    | cons c cs ih =>
      rw [List.flatMap_cons, Normal.parts_of_lt (h c (by simp)), ih fun d hd => h d (by simp [hd])]
      rfl
  have hl : ∀ c ∈ cs, c.toNat < 0x300 := fun c hc => Nat.lt_trans (h c hc) (by decide)
  rw [normal, hp, Normal.sorted_of_class_zero fun c hc => markClass_eq_zero_of_lt (hl c hc), Normal.joined,
    Normal.Joined.foldl_push_of_lt hl rfl]
  rfl

end FuturesDesk
