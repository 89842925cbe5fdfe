import FuturesDesk.Json.Decoder
import FuturesDesk.Proofs.DoubleOrder

/-!
# Numerals are read as finite doubles

A numeral beyond the range of doubles is not read at all. What is read comes of
an integer of 64 bits, multiplied with a check or divided by powers of ten, and
these are not less than one.
-/

namespace FuturesDesk

open Float.Model (UnpackedFloat Format totalExponent)
open Float.Model.UnpackedFloat

namespace Binary64

/-! ## Exponents -/

/-- Neither infinite nor a NaN, and the exponent is at most `top`. -/
def Below (top : Int) : UnpackedFloat → Prop
  | .zero _ => True
  | .finite _ _ e _ => e ≤ top
  | .infinity _ | .notANumber => False

def Large : UnpackedFloat → Prop
  | .infinity _ => True
  | .finite _ _ e _ => -52 ≤ e
  | .zero _ | .notANumber => False

section
variable {s : Sign} {k : Nat} {u v : UnpackedFloat} {top : Int}

theorem Below.mono (h : Below top u) {top' : Int} (hle : top ≤ top') : Below top' u := by
  cases u with
  | zero s => trivial
  | finite s m e hm => exact Int.le_trans h hle
  | infinity s => exact h
  | notANumber => exact h

theorem below_iff (hu : Unpacks s k u) (hlow : -1074 ≤ top) (hhigh : top ≤ 971) :
    Below top u ↔ (k : Int) < (top + 1076) * 2 ^ 52 := by
  have hplace : infinityPlace = 2047 * 2 ^ 52 := rfl
  cases hu <;> dsimp only [Below] <;> (first | rw [true_iff] | rw [false_iff] | skip) <;> omega

theorem large_of_le (hu : Unpacks s k u) (hone : 1023 * 2 ^ 52 ≤ k) (hinf : k ≤ infinityPlace) : Large u := by
  have hplace : infinityPlace = 2047 * 2 ^ 52 := rfl
  cases hu <;> dsimp only [Large] <;> omega

theorem below_unpack_iff {b : BitVec Format.binary64.numBits} (hlow : -1074 ≤ top) (hhigh : top ≤ 971) :
    Below top (UnpackedFloat.unpack .binary64 b) ↔ ((unpackExponent b).toNat : Int) < top + 1076 := by
  rw [below_iff (unpacks b) hlow hhigh, toNat_unpackExponent]
  omega

theorem isFinite_iff_below {x : Float} : isFinite x = true ↔ Below 971 x.toModel.unpack := by
  have hexp := toNat_unpackExponent x.toBits.toBitVec
  have hbits : x.toBits.toBitVec.toNat = x.toBits.toNat := rfl
  have hbelow : Below 971 x.toModel.unpack ↔ _ := below_unpack_iff (b := x.toBits.toBitVec) (by decide) (by decide)
  rw [isFinite_iff_exponent, hbelow, hexp, hbits]
  change _ / 2 ^ 52 % 2 ^ 11 ≠ _ ↔ _
  omega

theorem Below.pack (h : Below top u) (hlow : -1074 ≤ top) (hhigh : top ≤ 971) :
    Below top (UnpackedFloat.unpack .binary64 (UnpackedFloat.pack .binary64 u)) := by
  rw [below_unpack_iff hlow hhigh]
  cases u with
  | zero s =>
    change ((unpackExponent (packComponents .binary64 s 0 0)).toNat : Int) < _
    rw [unpackExponent_packComponents]
    change (0 : Int) < _
    omega
  | finite s m e hm =>
    have he : e ≤ top := h
    have hbias : (Format.binary64.exponentBias : Int) = 1023 := rfl
    unfold UnpackedFloat.pack
    dsimp only
    rw [hbias]
    split
    · rename_i hover
      change 2 ^ 11 ≤ (e + 1023 + 52).toNat + 1 at hover
      omega
    · split
      · rw [unpackExponent_packComponents, BitVec.toNat_ofNat]
        change (((e + 1023 + 52).toNat % 2 ^ 11 : Nat) : Int) < _
        omega
      · rw [unpackExponent_packComponents]
        change (0 : Int) < _
        omega
  | infinity s => cases h
  | notANumber => cases h

theorem large_unpack {b : BitVec Format.binary64.numBits} (hone : 1023 ≤ (unpackExponent b).toNat)
    (hinf : (unpackExponent b).toNat = 2047 → (unpackMantissa b).toNat = 0) :
    Large (UnpackedFloat.unpack .binary64 b) := by
  have hplace : infinityPlace = 2047 * 2 ^ 52 := rfl
  rw [toNat_unpackExponent] at hone hinf
  rw [toNat_unpackMantissa] at hinf
  exact large_of_le (unpacks b) (by omega) (by omega)

theorem Large.pack (h : Large u) (hu : Unpacks s k u) :
    Large (UnpackedFloat.unpack .binary64 (UnpackedFloat.pack .binary64 u)) := by
  have hinfinity : ∀ t, Large (UnpackedFloat.unpack .binary64 (packedInfinity .binary64 t)) := by
    intro t
    apply large_unpack
    · rw [packedInfinity, unpackExponent_packComponents]
      decide
    · intro _
      rw [packedInfinity, unpackMantissa_packComponents]
      rfl
  cases hu with
  | notANumber hk => cases h
  | infinity hk => exact hinfinity s
  | zero hk => cases h
  | @finite m e hm hk hsum hlt hmin hlead =>
    have he : -52 ≤ e := h
    have hbias : (Format.binary64.exponentBias : Int) = 1023 := rfl
    have hlog : m.log2 = 52 := (Nat.log2_eq_iff (by omega)).mpr ⟨by omega, hlt⟩
    unfold UnpackedFloat.pack
    dsimp only
    rw [hbias, hlog]
    split
    · exact hinfinity s
    · rename_i hover
      change ¬ 2 ^ 11 ≤ (e + 1023 + 52).toNat + 1 at hover
      have hnormal : 52 + 1 = Format.binary64.mantissaBits := rfl
      rw [if_pos hnormal]
      apply large_unpack
      · rw [unpackExponent_packComponents, BitVec.toNat_ofNat]
        change 1023 ≤ (e + 1023 + 52).toNat % 2 ^ 11
        omega
      · rw [unpackExponent_packComponents, BitVec.toNat_ofNat]
        change (e + 1023 + 52).toNat % 2 ^ 11 = 2047 → _
        omega

end

/-! ## Rounding and dividing -/

theorem mantissa_shiftRight (em : ExtendedMantissa) (n : Nat) : (em >>> n).mantissa = em.mantissa / 2 ^ n := by
  induction n with
  | zero => exact (Nat.div_one _).symm
  | succ n ih =>
    change (em >>> n).mantissa / 2 = _
    rw [ih, Nat.div_div_eq_div_mul, Nat.pow_succ]

theorem roundedMantissa_le (em : ExtendedMantissa) : em.roundedMantissa ≤ em.mantissa + 1 := by
  have hround : ∀ acc : Accuracy, acc.roundToNearestEven em.mantissa ≤ em.mantissa + 1 := by
    intro acc
    rcases acc with _ | _ | _ | _ <;> simp only [Accuracy.roundToNearestEven] <;> omega
  exact hround _

theorem log2_lt_of_lt {m n : Nat} (hn : 0 < n) (h : m < 2 ^ n) : m.log2 < n := by
  by_cases hm : m = 0
  · simpa [hm] using hn
  · exact (Nat.log2_lt hm).mpr h

theorem mantissa_ofMantissaAndAccuracy (m : Nat) (acc : Accuracy) :
    (ExtendedMantissa.ofMantissaAndAccuracy m acc).mantissa = m := by
  rcases acc with _ | _ | _ | _ <;> rfl

/-- A mantissa is shifted to 53 bits, and its exponent grows no further than
that takes. -/
theorem shiftToTargetExponent_bounds (m : Nat) (e : Int) (acc : Accuracy) {top : Int} (hlow : -1074 ≤ top)
    (he : e ≤ top) (hm : m < 2 ^ (53 + (top - e).toNat)) :
    (shiftToTargetExponent .binary64 m e acc).1.mantissa < 2 ^ 53 ∧
      (shiftToTargetExponent .binary64 m e acc).2 ≤ top := by
  have htarget : Format.binary64.targetExponent (totalExponent m e) = max (m.log2 + 1 + e - 53) (-1074) := rfl
  have hlog := log2_lt_of_lt (by omega) hm
  simp only [shiftToTargetExponent, shiftToExponent, htarget, mantissa_shiftRight, mantissa_ofMantissaAndAccuracy]
  refine ⟨?_, by omega⟩
  generalize hs : (max ((m.log2 : Int) + 1 + e - 53) (-1074) - e).toNat = shift
  have hbits : m.log2 + 1 ≤ 53 + shift := by omega
  rw [Nat.div_lt_iff_lt_mul (Nat.two_pow_pos _), ← Nat.pow_add]
  exact Nat.lt_of_lt_of_le Nat.lt_log2_self (Nat.pow_le_pow_right (by decide) hbits)

theorem below_round (s : Sign) {m : Nat} {e : Int} (acc : Accuracy) {top : Int} (hlow : -1074 ≤ top) (he : e ≤ top)
    (hm : m < 2 ^ (53 + (top - e).toNat)) : Below (top + 1) (roundWithAccuracy .binary64 s m e acc) := by
  obtain ⟨hmant, hexp⟩ := shiftToTargetExponent_bounds m e acc hlow he hm
  unfold roundWithAccuracy
  dsimp only
  generalize shiftToTargetExponent .binary64 m e acc = first at hmant hexp
  -- rounding may carry to 54 bits, and then the exponent grows by one more
  have hrounded : first.1.roundedMantissa < 2 ^ (53 + (top + 1 - first.2).toNat) := by
    have hle := roundedMantissa_le first.1
    have hpow : 2 ^ (53 + 1) ≤ 2 ^ (53 + (top + 1 - first.2).toNat) := Nat.pow_le_pow_right (by decide) (by omega)
    omega
  have hsecond := (shiftToTargetExponent_bounds _ first.2 .exact (by omega) (by omega) hrounded).2
  by_cases hzero : (shiftToTargetExponent .binary64 first.1.roundedMantissa first.2 .exact).1.mantissa = 0
  · rw [dif_pos hzero]
    trivial
  · rw [dif_neg hzero]
    exact hsecond

/-- A quotient by one or more is not much greater than the dividend: 52 comes of
the divisor's exponent, and one of rounding. -/
theorem Below.div {s : Sign} {k : Nat} {u v : UnpackedFloat} {top : Int} (h : Below top u) (hv : Large v)
    (hu : Unpacks s k u) (hlow : -1126 ≤ top) : Below (top + 53) (UnpackedFloat.div .binary64 u v) := by
  cases hu with
  | notANumber hk => cases h
  | infinity hk => cases h
  | zero hk =>
    cases v with
    | infinity t => trivial
    | finite t m e hm => trivial
    | zero t => cases hv
    | notANumber => cases hv
  | @finite m₁ e₁ hm₁ hk hsum hlt hmin hlead =>
    cases v with
    | infinity t => trivial
    | finite t m₂ e₂ hm₂ =>
      have he₁ : e₁ ≤ top := h
      have he₂ : -52 ≤ e₂ := hv
      unfold UnpackedFloat.div divCore
      dsimp only
      generalize Format.binary64.targetExponent (totalExponent m₁ e₁ - totalExponent m₂ e₂) = target
      have hsucc : top + 53 = top + 52 + 1 := by omega
      rw [hsucc]
      refine below_round _ _ (by omega) (by omega) ?_
      calc m₁ <<< (e₁ - e₂ - min (e₁ - e₂) target).toNat / m₂
          ≤ m₁ <<< (e₁ - e₂ - min (e₁ - e₂) target).toNat := Nat.div_le_self ..
        _ = m₁ * 2 ^ (e₁ - e₂ - min (e₁ - e₂) target).toNat := Nat.shiftLeft_eq ..
        _ < 2 ^ 53 * 2 ^ (e₁ - e₂ - min (e₁ - e₂) target).toNat := Nat.mul_lt_mul_of_pos_right hlt (Nat.two_pow_pos _)
        _ = 2 ^ (53 + (e₁ - e₂ - min (e₁ - e₂) target).toNat) := (Nat.pow_add ..).symm
        _ ≤ 2 ^ (53 + (top + 52 - min (e₁ - e₂) target).toNat) := Nat.pow_le_pow_right (by decide) (by omega)
    | zero t => cases hv
    | notANumber => cases hv

theorem below_div {x y : Float} {top : Int} (hx : Below top x.toModel.unpack) (hy : Large y.toModel.unpack)
    (hlow : -1126 ≤ top) (hhigh : top ≤ 918) : Below (top + 53) (x / y).toModel.unpack :=
  (hx.div hy (unpacks x.toBits.toBitVec) hlow).pack (by omega) (by omega)

theorem below_neg {x : Float} {top : Int} (hx : Below top x.toModel.unpack) (hlow : -1074 ≤ top) (hhigh : top ≤ 971) :
    Below top (-x).toModel.unpack := by
  have hneg : Below top (UnpackedFloat.neg x.toModel.unpack) := by
    generalize x.toModel.unpack = u at hx
    cases u <;> exact hx
  exact hneg.pack hlow hhigh

theorem isFinite_zero : isFinite 0 = true := by decide +kernel

theorem isFinite_neg {x : Float} (h : isFinite x = true) : isFinite (-x) = true :=
  isFinite_iff_below.mpr (below_neg (isFinite_iff_below.mp h) (by decide) (by decide))

/-! ## Integers -/

theorem log2Div_one {n : Nat} (hn : n ≠ 0) : log2Div n 1 = n.log2 := by
  have hone : Nat.log2 1 = 0 := Nat.log2_two_pow (n := 0)
  have hexp : ((n.log2 : Int) - (0 : Nat)).toNat = n.log2 ∧ (-((n.log2 : Int) - (0 : Nat))).toNat = 0 := by omega
  have hself : 1 * pow2 n.log2 ≤ n * pow2 0 := by
    calc 1 * pow2 n.log2 = 2 ^ n.log2 := Nat.one_mul _
      _ ≤ n := Nat.log2_self_le hn
      _ = n * pow2 0 := (Nat.mul_one n).symm
  simp only [log2Div, hone, hexp]
  rw [if_pos hself]
  omega

theorem nearestBits_one {n : Nat} (hn : n ≠ 0) :
    ∃ m, 2 ^ 52 ≤ m ∧ m ≤ 2 ^ 53 ∧ nearestBits n 1 = min ((n.log2 + 1022) * 2 ^ 52 + m) infinityPlace := by
  have hlow : 2 ^ 52 * pow2 (n.log2 - 52) ≤ n * pow2 (52 - n.log2) := by
    calc 2 ^ 52 * pow2 (n.log2 - 52) = 2 ^ (52 + (n.log2 - 52)) := (Nat.pow_add ..).symm
      _ = 2 ^ (n.log2 + (52 - n.log2)) := by congr 1; omega
      _ = 2 ^ n.log2 * pow2 (52 - n.log2) := Nat.pow_add ..
      _ ≤ n * pow2 (52 - n.log2) := Nat.mul_le_mul_right _ (Nat.log2_self_le hn)
  have hhigh : n * pow2 (52 - n.log2) < 2 ^ 53 * pow2 (n.log2 - 52) := by
    calc n * pow2 (52 - n.log2) < 2 ^ (n.log2 + 1) * pow2 (52 - n.log2) :=
          Nat.mul_lt_mul_of_pos_right Nat.lt_log2_self (pow2_pos _)
      _ = 2 ^ (n.log2 + 1 + (52 - n.log2)) := (Nat.pow_add ..).symm
      _ = 2 ^ (53 + (n.log2 - 52)) := by congr 1; omega
      _ = 2 ^ 53 * pow2 (n.log2 - 52) := Nat.pow_add ..
  obtain ⟨hbelow, habove⟩ := roundDiv_bounds .even (n * pow2 (52 - n.log2)) (pow2_pos (n.log2 - 52))
  have hq : max (log2Div n 1 - 52) (-1074) = n.log2 - 52 := by
    rw [log2Div_one hn]
    omega
  have hexp : (-((n.log2 : Int) - 52)).toNat = 52 - n.log2 ∧ ((n.log2 : Int) - 52).toNat = n.log2 - 52 ∧
      ((n.log2 : Int) - 52 + 1074).toNat = n.log2 + 1022 := by omega
  refine ⟨roundDiv .even (n * pow2 (52 - n.log2)) (pow2 (n.log2 - 52)), ?_, ?_, ?_⟩
  · refine Nat.le_of_not_lt fun hlt => ?_
    have hmul := Nat.mul_le_mul_right (pow2 (n.log2 - 52)) (Nat.le_sub_one_of_lt hlt)
    have hpos := pow2_pos (n.log2 - 52)
    omega
  · refine Nat.le_of_not_lt fun hlt => ?_
    have hmul := Nat.mul_le_mul_right (pow2 (n.log2 - 52)) (Nat.succ_le_of_lt hlt)
    have hpos := pow2_pos (n.log2 - 52)
    omega
  · simp only [nearestBits, beq_iff_eq, hn, if_false, hq, hexp, Nat.one_mul]
    rfl

theorem nearestBits_le (num den : Nat) : nearestBits num den ≤ infinityPlace := by
  unfold nearestBits
  split
  · exact Nat.zero_le _
  · exact Nat.min_le_right ..

theorem toNat_nearest_bits (negative : Bool) (num den : Nat) :
    (UInt64.ofNat (nearestBits num den + if negative then pow2 63 else 0)).toBitVec.toNat % 2 ^ 63 =
      nearestBits num den := by
  have hle := nearestBits_le num den
  have hplace : infinityPlace = 2047 * 2 ^ 52 := rfl
  have hpow : pow2 63 = 2 ^ 63 := rfl
  change (nearestBits num den + if negative then pow2 63 else 0) % 2 ^ 64 % 2 ^ 63 = _
  split <;> omega

theorem below_nearest (negative : Bool) {n : Nat} (hn : n < pow2 64) :
    Below 12 (nearest negative n 1).toModel.unpack := by
  have hbits := toNat_nearest_bits negative n 1
  have hu := unpacks (UInt64.ofNat (nearestBits n 1 + if negative then pow2 63 else 0)).toBitVec
  rw [hbits] at hu
  refine Below.pack ((below_iff hu (by decide) (by decide)).mpr ?_) (by decide) (by decide)
  by_cases hzero : n = 0
  · rw [hzero]
    decide
  · obtain ⟨m, -, hm, he⟩ := nearestBits_one hzero
    have hlog : n.log2 < 64 := (Nat.log2_lt hzero).mpr hn
    omega

theorem large_nearest {n : Nat} (hn : n ≠ 0) : Large (nearest false n 1).toModel.unpack := by
  have hbits := toNat_nearest_bits false n 1
  have hu := unpacks (UInt64.ofNat (nearestBits n 1 + if false then pow2 63 else 0)).toBitVec
  obtain ⟨m, hm, -, he⟩ := nearestBits_one hn
  have hplace : infinityPlace = 2047 * 2 ^ 52 := rfl
  rw [hbits] at hu
  exact (large_of_le hu (by omega) (by omega)).pack hu

end Binary64

namespace Numeral

open Binary64

/-! ## Numerals -/

theorem Scaled.significand_whole (s : Scaled) (hs : s.significand < pow2 64) (ds : List Digit) :
    (s.whole ds).significand < pow2 64 := by
  induction ds generalizing s with
  | nil => exact hs
  | cons d ds ih =>
    simp only [Scaled.whole]
    split
    · rename_i hfits
      exact ih _ hfits
    · exact hs

theorem Scaled.significand_fraction (s : Scaled) (hs : s.significand < pow2 64) (ds : List Digit) :
    (s.fraction ds).significand < pow2 64 := by
  induction ds generalizing s with
  | nil => exact hs
  | cons d ds ih =>
    simp only [Scaled.fraction]
    split
    · rename_i hfits
      exact ih _ hfits
    · exact hs

theorem large_tenPow (k : Nat) : Large (tenPow k).toModel.unpack := large_nearest (Nat.pos_iff_ne_zero.mp (pow10_pos k))

theorem Scaled.isFinite_of_toFloat? {s : Scaled} {x : Float} (hs : s.significand < pow2 64)
    (h : s.toFloat? = some x) : isFinite x = true := by
  have hbelow : Below 12 (nearest false s.significand 1).toModel.unpack := below_nearest false hs
  have hfinite {top : Int} {y : Float} (hy : Below top y.toModel.unpack) (htop : top ≤ 971) : isFinite y = true :=
    isFinite_iff_below.mpr (hy.mono htop)
  have hten := large_tenPow
  simp only [Scaled.toFloat?] at h
  generalize tenPow = ten at h hten
  -- the branches of the definition, from zero on
  split at h
  · cases h
    exact hfinite hbelow (by decide)
  split at h
  · cases h
  split at h
  · split at h
    · rename_i hchecked
      cases h
      exact hchecked
    · cases h
  split at h
  · cases h
    exact hfinite (below_div hbelow (hten _) (by decide) (by decide)) (by decide)
  split at h
  · cases h
    have hfirst := below_div hbelow (hten 308) (by decide) (by decide)
    exact hfinite (below_div hfirst (hten _) (by decide) (by decide)) (by decide)
  · cases h
    exact hfinite (below_nearest false (n := 0) (by decide)) (by decide)

theorem isFinite_of_toFloat? {n : Numeral} {x : Float} (h : n.toFloat? = some x) : isFinite x = true := by
  simp only [toFloat?, Option.map_eq_some_iff] at h
  obtain ⟨y, hy, rfl⟩ := h
  have hzero : (0 : Nat) < pow2 64 := pow2_pos 64
  have hs := Scaled.significand_fraction _ (Scaled.significand_whole ⟨0, 0⟩ hzero n.whole) n.fraction
  have hfinite : isFinite y = true := by
    refine Scaled.isFinite_of_toFloat? ?_ hy
    split <;> exact hs
  split
  · exact isFinite_neg hfinite
  · exact hfinite

theorem isFinite_of_value? {n : Numeral} {v : Value} (h : n.value? = some v) : isFinite v.toFloat = true := by
  have hreal {w : Value} (hw : n.toFloat?.map .real = some w) : isFinite w.toFloat = true := by
    obtain ⟨x, hx, rfl⟩ := Option.map_eq_some_iff.mp hw
    exact isFinite_of_toFloat? hx
  have hinteger (negative : Bool) {m : Nat} (hm : m < pow2 64) : isFinite (nearest negative m 1) = true :=
    isFinite_iff_below.mpr ((below_nearest negative hm).mono (by decide))
  simp only [value?] at h
  split at h
  · split at h
    · split at h
      · rename_i hm
        cases h
        refine hinteger true ?_
        have hpow : pow2 63 = 2 ^ 63 ∧ pow2 64 = 2 ^ 64 := ⟨rfl, rfl⟩
        simp only [Bool.and_eq_true, decide_eq_true_eq] at hm
        omega
      · exact hreal h
    · split at h
      · rename_i hm
        cases h
        exact hinteger false hm
      · exact hreal h
  · exact hreal h

end Numeral

/-- Whatever is read as a double is finite. -/
theorem Json.Decoder.isFinite_of_float {j : Json} {x : Float} (h : Json.Decoder.float j = .ok x) :
    isFinite x = true := by
  cases j with
  | number n =>
    cases hv : n.value? with
    | some v =>
      simp only [Json.Decoder.float, hv, Except.ok.injEq] at h
      exact h ▸ Numeral.isFinite_of_value? hv
    | none => simp [Json.Decoder.float, hv] at h
  | _ => simp [Json.Decoder.float] at h

end FuturesDesk
