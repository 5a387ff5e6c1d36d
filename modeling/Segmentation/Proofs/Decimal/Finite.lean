import Segmentation.Proofs.Decimal.Whole

namespace Segmentation

open Float.Model (UnpackedFloat Format totalExponent)
open Float.Model.UnpackedFloat (ExtendedMantissa Accuracy Sign)

namespace Binary64

/-- Zero, or a mantissa times a power of two with an exponent of at most `b`. -/
def IsWithin (b : Int) : UnpackedFloat → Prop
  | .zero _ => True
  | .finite _ _ e _ => e ≤ b
  | .infinity _ => False
  | .notANumber => False

theorem targetExponent_eq (t : Int) :
    Format.binary64.targetExponent t = max (t - 53) (-1074) := by
  have hleast : Format.binary64.minExponent = -1074 := by decide
  rw [Format.targetExponent, hleast]
  rfl

theorem log2_le_of_lt {m k : Nat} (h : m < 2 ^ (k + 1)) : m.log2 ≤ k := by
  by_cases hm : m = 0
  · subst hm
    exact Nat.zero_le k
  · exact Nat.le_of_lt_succ ((Nat.log2_lt hm).2 h)

theorem mantissa_shiftRight_le (em : ExtendedMantissa) (n : Nat) :
    (em >>> n).mantissa ≤ em.mantissa := by
  change (n.repeat ExtendedMantissa.shiftRightOne em).mantissa ≤ em.mantissa
  induction n with
  | zero => exact Nat.le_refl _
  | succ n ih => exact Nat.le_trans (Nat.div_le_self _ _) ih

theorem roundedMantissa_le (em : ExtendedMantissa) : em.roundedMantissa ≤ em.mantissa + 1 := by
  obtain ⟨m, r, s⟩ := em
  cases r <;> cases s <;>
    simp only [ExtendedMantissa.roundedMantissa, ExtendedMantissa.accuracy,
      Accuracy.roundToNearestEven] <;> omega

theorem mantissa_ofMantissaAndAccuracy (m : Nat) (a : Accuracy) :
    (ExtendedMantissa.ofMantissaAndAccuracy m a).mantissa = m := by
  cases a with
  | exact => rfl
  | inexact o => cases o <;> rfl

section Rounding

variable {m k : Nat} {e b : Int}

theorem shiftToTargetExponent_le (a : Accuracy) (hm : m < 2 ^ (k + 1)) (he : e ≤ b)
    (hb : 0 ≤ b) :
    (UnpackedFloat.shiftToTargetExponent .binary64 m e a).1.mantissa ≤ m ∧
      (UnpackedFloat.shiftToTargetExponent .binary64 m e a).2 ≤ b + k := by
  have hlog := log2_le_of_lt hm
  constructor
  · refine Nat.le_trans (mantissa_shiftRight_le _ _) (Nat.le_of_eq ?_)
    exact mantissa_ofMantissaAndAccuracy m a
  · have htarget : Format.binary64.targetExponent (totalExponent m e) ≤ b + k := by
      rw [targetExponent_eq, totalExponent]
      omega
    change e + ((Format.binary64.targetExponent (totalExponent m e) - e).toNat : Int) ≤ b + k
    omega

theorem isWithin_roundWithAccuracy (s : Sign) (a : Accuracy) (hm : m < 2 ^ (k + 1)) (he : e ≤ b)
    (hb : 0 ≤ b) :
    IsWithin (b + k + (k + 1)) (UnpackedFloat.roundWithAccuracy .binary64 s m e a) := by
  -- There are two shifts: one of the mantissa, and one of what it is rounded to.
  obtain ⟨hmantissa, hexponent⟩ := shiftToTargetExponent_le a hm he hb
  rw [UnpackedFloat.roundWithAccuracy]
  generalize UnpackedFloat.shiftToTargetExponent .binary64 m e a = shifted at *
  obtain ⟨em, e₁⟩ := shifted
  dsimp only at hmantissa hexponent ⊢
  have hrounded : em.roundedMantissa < 2 ^ (k + 1 + 1) := by
    have hle := roundedMantissa_le em
    have hpow := Nat.pow_succ 2 (k + 1)
    omega
  obtain ⟨-, hsecond⟩ := shiftToTargetExponent_le .exact hrounded hexponent (by omega)
  split
  · trivial
  · rw [IsWithin]
    push_cast at hsecond
    omega

end Rounding

theorem IsWithin.imp {b c : Int} {u : UnpackedFloat} (h : IsWithin b u) (hbc : b ≤ c) :
    IsWithin c u := by
  cases u with
  | notANumber | infinity => exact h.elim
  | zero s => trivial
  | finite s m e hm => exact Int.le_trans h hbc

theorem isWithin_ofNat {m : Nat} (h : m < 2 ^ 64) :
    IsWithin 300 (UnpackedFloat.ofNat .binary64 m) := by
  rw [UnpackedFloat.ofNat, UnpackedFloat.ofInt, UnpackedFloat.normalize]
  split
  · next hlt =>
    rw [Int.compare_eq_lt] at hlt
    omega
  · trivial
  · rw [UnpackedFloat.round, UnpackedFloat.decreaseExponent, Int.toNat_natCast]
    dsimp only
    generalize hshift : (0 - Format.binary64.targetExponent (totalExponent m 0)).toNat = shift
    have hle : shift ≤ 52 := by
      rw [targetExponent_eq, totalExponent] at hshift
      omega
    have hm : m <<< shift < 2 ^ (115 + 1) := by
      rw [Nat.shiftLeft_eq]
      calc m * 2 ^ shift < 2 ^ 64 * 2 ^ shift := Nat.mul_lt_mul_of_pos_right h (Nat.two_pow_pos _)
        _ ≤ 2 ^ 64 * 2 ^ 52 := Nat.mul_le_mul_left _ (Nat.pow_le_pow_right (by decide) hle)
        _ = 2 ^ (115 + 1) := by decide
    have hwithin := isWithin_roundWithAccuracy .positive .exact hm
      (e := 0 - (shift : Int)) (b := 0) (by omega) (by omega)
    exact hwithin.imp (by decide)

theorem isWithin_ofScientific_zero {m : Nat} (h : m < 2 ^ 64) :
    IsWithin 300 (UnpackedFloat.ofScientific .binary64 m 0) := by
  by_cases hm : m = 0
  · rw [UnpackedFloat.ofScientific, dif_pos hm]
    trivial
  · have hpos : (0 : Int) < 2 ^ Format.binary64.exponentBits := by decide
    rw [UnpackedFloat.ofScientific, dif_neg hm, if_neg (by decide), if_neg (by omega),
      if_pos (by decide), UnpackedFloat.mul]
    generalize hproduct : (m <<< Format.binary64.mantissaBits) * 10 ^ (0 : Int).toNat = product
    have hlt : product < 2 ^ (116 + 1) := by
      rw [← hproduct, Int.toNat_zero, Nat.pow_zero, Nat.mul_one, Nat.shiftLeft_eq]
      exact Nat.mul_lt_mul_of_pos_right h (Nat.two_pow_pos _)
    have hexponent : -(Format.binary64.mantissaBits : Int) + 0 ≤ 0 := by decide
    have hwithin := isWithin_roundWithAccuracy (.positive * .positive) .exact hlt hexponent
      (Int.le_refl 0)
    exact hwithin.imp (by decide)

section Packing

variable {u : UnpackedFloat} {b : Int} (hb : 0 ≤ b) (hb' : b ≤ 971)

include hb hb'

theorem unpackExponent_pack_le (h : IsWithin b u) :
    (UnpackedFloat.unpackExponent (UnpackedFloat.pack .binary64 u)).toNat ≤ b + 1075 := by
  cases u with
  | notANumber | infinity => exact h.elim
  | zero s =>
    rw [UnpackedFloat.pack, UnpackedFloat.packedZero, UnpackedFloat.unpackExponent_packComponents]
    change (0 : Int) ≤ _
    omega
  | finite s m e hm =>
    have he : e ≤ b := h
    have hbias : (Format.binary64.exponentBias : Int) = 1023 := rfl
    have hsmall : ¬2 ^ Format.binary64.exponentBits ≤ (e + Format.binary64.exponentBias +
        Format.binary64.mantissaBitsWithoutImplicit).toNat + 1 := by
      rw [hbias]
      change ¬2048 ≤ (e + 1023 + 52).toNat + 1
      omega
    rw [UnpackedFloat.pack]
    simp only [if_neg hsmall]
    split
    · rw [UnpackedFloat.unpackExponent_packComponents, BitVec.toNat_ofNat, hbias]
      have hmod := Nat.mod_le (e + 1023 + (52 : Nat)).toNat (2 ^ 11)
      omega
    · rw [UnpackedFloat.unpackExponent_packComponents]
      change (0 : Int) ≤ _
      omega

theorem isFinite_ofModel_pack (h : IsWithin b u) :
    isFinite (Float.ofModel (Float.Model.pack u)) = true := by
  rw [isFinite, bne_iff_ne, exponentBits_eq]
  have hle := unpackExponent_pack_le hb hb' h
  change (UnpackedFloat.unpackExponent (UnpackedFloat.pack .binary64 u)).toNat ≠ 2047
  omega

end Packing

section Unpacking

variable {v : BitVec Format.binary64.numBits}

theorem isWithin_unpack {b : Int} (hb : 0 ≤ b) (hb' : b ≤ 971)
    (h : (UnpackedFloat.unpackExponent v).toNat ≤ b + 1075) :
    IsWithin b (UnpackedFloat.unpack .binary64 v) := by
  have hbias : (Format.binary64.exponentBias : Int) + (52 : Nat) = 1075 := rfl
  rw [UnpackedFloat.unpack]
  dsimp only
  rw [hbias]
  split
  · next hones =>
    rw [hones] at h
    change (2047 : Int) ≤ _ at h
    omega
  · split
    · next hzero =>
      split
      · trivial
      · rw [hzero]
        change (0 : Int) - 1075 + 1 ≤ b
        omega
    · change _ - (1075 : Int) ≤ b
      omega

theorem mantissa_unpack_lt {s : Sign} {m : Nat} {e : Int} {h : 0 < m}
    (hv : UnpackedFloat.unpack .binary64 v = .finite s m e h) : m < 2 ^ 53 := by
  rw [UnpackedFloat.unpack] at hv
  split at hv
  · split at hv <;> cases hv
  · split at hv
    · split at hv
      · cases hv
      · cases hv
        exact Nat.lt_trans (UnpackedFloat.unpackMantissa v).isLt (by decide)
    · cases hv
      exact BitVec.isLt _

theorem isWithin_of_isFinite {x : Float} (h : isFinite x = true) :
    IsWithin 971 x.toModel.unpack := by
  rw [isFinite, bne_iff_ne, exponentBits_eq] at h
  have hlt := (@UnpackedFloat.unpackExponent .binary64 x.toBits.toBitVec).isLt
  change _ < 2048 at hlt
  exact @isWithin_unpack x.toBits.toBitVec 971 (by decide) (by decide) (by omega)

end Unpacking

end Binary64

namespace Decimal

open Binary64

theorem isFinite_mul_one {u : UnpackedFloat} (h : IsWithin 300 u) :
    isFinite (Float.ofModel (Float.Model.pack u) * Float.ofBits 0x3FF0000000000000) = true := by
  have hunpack := isWithin_unpack (by decide) (by decide)
    (unpackExponent_pack_le (by decide) (by decide) h)
  suffices hmul : IsWithin 600 (UnpackedFloat.mul .binary64
      (UnpackedFloat.unpack .binary64 (UnpackedFloat.pack .binary64 u))
      (Float.ofBits 0x3FF0000000000000).toModel.unpack) from
    isFinite_ofModel_pack (by decide) (by decide) hmul
  rw [unpack_one]
  cases hu : UnpackedFloat.unpack .binary64 (UnpackedFloat.pack .binary64 u) with
  | notANumber | infinity =>
    rw [hu] at hunpack
    exact hunpack.elim
  | zero s => trivial
  | finite s m e hm =>
    rw [hu] at hunpack
    have he : e ≤ 300 := hunpack
    have hproduct : m * 4503599627370496 < 2 ^ (104 + 1) :=
      Nat.mul_lt_mul_of_pos_right (mantissa_unpack_lt hu) (by decide)
    rw [UnpackedFloat.mul]
    have hwithin := isWithin_roundWithAccuracy (s * .positive) .exact hproduct
      (e := e + -52) (b := 300) (by omega) (by decide)
    exact hwithin.imp (by decide)

theorem isFinite_neg {x : Float} (h : isFinite x = true) : isFinite (-x) = true := by
  have hwithin := isWithin_of_isFinite h
  apply isFinite_ofModel_pack (u := x.toModel.unpack.neg) (b := 971) (by decide) (by decide)
  cases hx : x.toModel.unpack with
  | notANumber | infinity =>
    rw [hx] at hwithin
    exact hwithin.elim
  | zero s => trivial
  | finite s m e hm =>
    rw [hx] at hwithin
    exact hwithin

theorem isFinite_toFloat {m : Nat} (h : m < 2 ^ 64) : isFinite (toFloat ⟨m, 0⟩) = true := by
  simp only [toFloat]
  split
  · decide +kernel
  · split
    · next hfar =>
      have hwidth : width m ≤ 20 := Nat.toDigits_length 10 m 20 (by decide)
        (Nat.lt_trans h (by decide))
      omega
    · rw [Float.ofScientific]
      split
      · exact isFinite_mul_one (isWithin_ofNat (UInt64.toNat_lt _))
      · exact isFinite_ofModel_pack (by decide) (by decide) (isWithin_ofScientific_zero h)

/-- A whole number of 64 bits, with a sign or without, is far from the end. -/
theorem isFinite_floatOfInt {n : Int} (h : n.natAbs < 2 ^ 64) :
    isFinite (floatOfInt n) = true := by
  rw [floatOfInt, toSignedFloat]
  split
  · exact isFinite_neg (isFinite_toFloat h)
  · exact isFinite_toFloat h

end Decimal

end Segmentation
