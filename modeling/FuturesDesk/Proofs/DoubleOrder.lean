import Mathlib.Algebra.Group.Int.Defs
import Mathlib.Algebra.Group.Nat.Defs
import FuturesDesk.Number.Binary64

/-!
# The order of doubles

Every double but a NaN has a place among the integers, the magnitude of its bits
with its sign. Doubles compare as their places do, and the finite ones are those
between the places of the two infinities.
-/

namespace FuturesDesk

open Float.Model (UnpackedFloat Format)
open Float.Model.UnpackedFloat (Sign unpackMantissa unpackExponent unpackSign)

namespace Binary64

/-! ## Unpacked doubles -/

def infinityPlace : Nat := 2047 * 2 ^ 52

def unpackedPlace? : UnpackedFloat → Option Int
  | .notANumber => none
  | .infinity s => some (s.apply infinityPlace)
  | .zero _ => some 0
  | .finite s m e _ => some (s.apply (m + (e + 1074) * 2 ^ 52))

/-- What 64 bits with the sign `s` and the magnitude `k` are unpacked to. -/
inductive Unpacks (s : Sign) (k : Nat) : UnpackedFloat → Prop
  | notANumber (hk : infinityPlace < k) : Unpacks s k .notANumber
  | infinity (hk : k = infinityPlace) : Unpacks s k (.infinity s)
  | zero (hk : k = 0) : Unpacks s k (.zero s)
  | finite {m : Nat} {e : Int} {hm : 0 < m} (hk : k < infinityPlace) (hsum : m + (e + 1074) * 2 ^ 52 = (k : Int))
      (hlt : m < 2 ^ 53) (hmin : -1074 ≤ e) (hlead : 2 ^ 52 ≤ m ∨ e = -1074) : Unpacks s k (.finite s m e hm)

section
variable (b : BitVec Format.binary64.numBits)

theorem toNat_unpackMantissa : (unpackMantissa b).toNat = b.toNat % 2 ^ 52 := by
  simp [unpackMantissa]

theorem toNat_unpackExponent : (unpackExponent b).toNat = b.toNat / 2 ^ 52 % 2 ^ 11 := by
  simp [unpackExponent, Nat.shiftRight_eq_div_pow]

theorem unpackMantissa_eq_zero_iff : unpackMantissa b = 0#52 ↔ b.toNat % 2 ^ 52 = 0 := by
  rw [← toNat_unpackMantissa, ← BitVec.toNat_inj]
  rfl

theorem unpackExponent_eq_iff (n : Nat) (hn : n < 2 ^ 11) :
    unpackExponent b = BitVec.ofNat 11 n ↔ b.toNat / 2 ^ 52 % 2 ^ 11 = n := by
  rw [← toNat_unpackExponent, ← BitVec.toNat_inj, BitVec.toNat_ofNat, Nat.mod_eq_of_lt hn]

theorem toNat_one_append : (1#1 ++ unpackMantissa b).toNat = 2 ^ 52 + b.toNat % 2 ^ 52 := by
  have hor := Nat.two_pow_add_eq_or_of_lt (Nat.mod_lt b.toNat (Nat.two_pow_pos 52)) 1
  rw [BitVec.toNat_append, toNat_unpackMantissa]
  simpa using hor.symm

theorem unpacks : Unpacks (.ofBitVec (unpackSign b)) (b.toNat % 2 ^ 63) (UnpackedFloat.unpack .binary64 b) := by
  have hbias : (Format.binary64.exponentBias : Int) = 1023 := rfl
  have hwidth : (Format.binary64.mantissaBitsWithoutImplicit : Int) = 52 := rfl
  have hplace : infinityPlace = 2047 * 2 ^ 52 := rfl
  have hm := toNat_unpackMantissa b
  have he := toNat_unpackExponent b
  have hones : unpackExponent b = -1#11 ↔ b.toNat / 2 ^ 52 % 2 ^ 11 = 2047 := unpackExponent_eq_iff b 2047 (by decide)
  have hzero := unpackExponent_eq_iff b 0 (by decide)
  have hmant := unpackMantissa_eq_zero_iff b
  have hone := toNat_one_append b
  unfold UnpackedFloat.unpack
  dsimp only
  rw [hbias, hwidth]
  -- the cases of unpacking: all exponent bits set, none, or some
  by_cases hall : unpackExponent b = -1#11
  · rw [if_pos hall]
    replace hall := hones.mp hall
    by_cases hfraction : unpackMantissa b = 0#52
    · rw [if_pos hfraction]
      have hexact := hmant.mp hfraction
      exact .infinity (by omega)
    · rw [if_neg hfraction]
      have hsome := mt hmant.mpr hfraction
      exact .notANumber (by omega)
  · rw [if_neg hall]
    replace hall := mt hones.mpr hall
    by_cases hnone : unpackExponent b = 0#11
    · rw [if_pos hnone]
      replace hnone := hzero.mp hnone
      by_cases hfraction : unpackMantissa b = 0#52
      · rw [dif_pos hfraction]
        have hexact := hmant.mp hfraction
        exact .zero (by omega)
      · rw [dif_neg hfraction]
        have hsome := mt hmant.mpr hfraction
        exact .finite (by omega) (by omega) (by omega) (by omega) (by omega)
    · rw [if_neg hnone]
      replace hnone := mt hzero.mpr hnone
      exact .finite (by omega) (by omega) (by omega) (by omega) (by omega)

end

theorem then_eq_lt_iff {e e' : Int} {m m' : Nat} :
    (compare e e').then (compare m m') = .lt ↔ e < e' ∨ e = e' ∧ m < m' := by
  rw [Ordering.then_eq_lt, Int.compare_eq_lt, Int.compare_eq_eq, Nat.compare_eq_lt]

theorem then_eq_gt_iff {e e' : Int} {m m' : Nat} :
    (compare e e').then (compare m m') = .gt ↔ e' < e ∨ e = e' ∧ m' < m := by
  rw [Ordering.then_eq_gt, Int.compare_eq_gt, Int.compare_eq_eq, Nat.compare_eq_gt]

theorem compare_signs : compare Sign.negative Sign.positive = .lt ∧ compare Sign.positive Sign.negative = .gt ∧
    ∀ s : Sign, compare s s = .eq := ⟨rfl, rfl, fun s => by cases s <;> rfl⟩

/-- Unpacked doubles are compared by the exponent first, so that the leading bit
decides which has the greater magnitude. -/
theorem lt_unpacked_iff {s t : Sign} {k l : Nat} {u v : UnpackedFloat} (hu : Unpacks s k u) (hv : Unpacks t l v) :
    u.lt v = true ↔ ∃ a b, unpackedPlace? u = some a ∧ unpackedPlace? v = some b ∧ a < b := by
  have hplace : infinityPlace = 2047 * 2 ^ 52 := rfl
  unfold UnpackedFloat.lt UnpackedFloat.compare
  cases hu <;> cases hv <;> cases s <;> cases t <;> dsimp only [unpackedPlace?] <;>
    simp [Sign.apply, then_eq_lt_iff, then_eq_gt_iff, compare_signs] <;>
    omega

/-! ## Places -/

/-- The place of a double among all of them: infinity is the greatest, zero in
the middle, and a NaN has none. -/
def place? (x : Float) : Option Int := unpackedPlace? x.toModel.unpack

theorem lt_iff {x y : Float} : x < y ↔ ∃ a b, place? x = some a ∧ place? y = some b ∧ a < b := by
  have hlt : x < y ↔ x.toModel.unpack.lt y.toModel.unpack = true := decide_eq_true_iff
  rw [hlt]
  exact lt_unpacked_iff (unpacks x.toBits.toBitVec) (unpacks y.toBits.toBitVec)

theorem isFinite_iff_exponent {x : Float} : isFinite x = true ↔ x.toBits.toNat / pow2 52 % pow2 11 ≠ 2047 := by
  unfold isFinite ofFloat
  by_cases hones : x.toBits.toNat / pow2 52 % pow2 11 = 2047
  · by_cases hfraction : x.toBits.toNat % pow2 52 = 0 <;> simp [hones, hfraction]
  · by_cases hzero : x.toBits.toNat / pow2 52 % pow2 11 = 0 <;> simp [hones, hzero]

theorem isFinite_iff {x : Float} :
    isFinite x = true ↔ ∃ a, place? x = some a ∧ -infinityPlace < a ∧ a < infinityPlace := by
  have hplace : infinityPlace = 2047 * 2 ^ 52 := rfl
  have hu : Unpacks _ (x.toBits.toNat % 2 ^ 63) x.toModel.unpack := unpacks x.toBits.toBitVec
  have hmagnitude : isFinite x = true ↔ x.toBits.toNat % 2 ^ 63 < infinityPlace := by
    have hbits := x.toBits.toNat_lt
    rw [isFinite_iff_exponent, hplace]
    change _ / 2 ^ 52 % 2 ^ 11 ≠ _ ↔ _
    omega
  rw [hmagnitude, place?]
  generalize x.toModel.unpack = u, Sign.ofBitVec _ = s at hu
  cases hu <;> cases s <;> dsimp only [unpackedPlace?] <;> simp [Sign.apply] <;> omega

theorem zero_le_iff {x : Float} (hx : isFinite x = true) : 0 ≤ x ↔ ¬ x < 0 := by
  obtain ⟨a, ha, -⟩ := isFinite_iff.mp hx
  have hle : 0 ≤ x ↔ (UnpackedFloat.zero .positive).le x.toModel.unpack = true := decide_eq_true_iff
  have hlt : x < 0 ↔ x.toModel.unpack.lt (.zero .positive) = true := decide_eq_true_iff
  unfold place? at ha
  rw [hle, hlt]
  cases hu : x.toModel.unpack with
  | notANumber =>
    rw [hu] at ha
    cases ha
  | infinity s => cases s <;> decide
  | zero s => cases s <;> decide
  | finite s m e hm =>
    cases s with
    | positive => exact iff_of_true rfl Bool.false_ne_true
    | negative => exact iff_of_false Bool.false_ne_true (not_not_intro rfl)

/-! ## Bounds -/

def greatest : Float := .ofBits 0x7FEFFFFFFFFFFFFF

def least : Float := .ofBits 0xFFEFFFFFFFFFFFFF

theorem place?_greatest : place? greatest = some ((infinityPlace : Int) - 1) := by decide +kernel

theorem place?_least : place? least = some (1 - (infinityPlace : Int)) := by decide +kernel

theorem exists_lt_iff {y : Float} : (∃ x, isFinite x = true ∧ x < y) ↔ least < y := by
  constructor
  · rintro ⟨x, hx, hlt⟩
    obtain ⟨a, ha, hlow, -⟩ := isFinite_iff.mp hx
    obtain ⟨a', b, ha', hb, hab⟩ := lt_iff.mp hlt
    rw [ha, Option.some.injEq] at ha'
    exact lt_iff.mpr ⟨_, b, place?_least, hb, by omega⟩
  · intro hlt
    exact ⟨least, by decide +kernel, hlt⟩

theorem exists_gt_iff {y : Float} : (∃ x, isFinite x = true ∧ y < x) ↔ y < greatest := by
  constructor
  · rintro ⟨x, hx, hlt⟩
    obtain ⟨a, ha, -, hhigh⟩ := isFinite_iff.mp hx
    obtain ⟨b, a', hb, ha', hab⟩ := lt_iff.mp hlt
    rw [ha, Option.some.injEq] at ha'
    exact lt_iff.mpr ⟨b, _, hb, place?_greatest, by omega⟩
  · intro hlt
    exact ⟨greatest, by decide +kernel, hlt⟩

end Binary64

end FuturesDesk
