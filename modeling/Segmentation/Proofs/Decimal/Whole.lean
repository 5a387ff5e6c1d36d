import Mathlib
import Segmentation.Decimal

namespace Segmentation

open Float.Model (UnpackedFloat Format)

namespace Binary64

theorem exponentBits_eq (x : Float) :
    exponentBits x = (@UnpackedFloat.unpackExponent .binary64 x.toBits.toBitVec).toNat := by
  rw [UnpackedFloat.unpackExponent, BitVec.toNat_cast, BitVec.extractLsb_toNat,
    Nat.shiftRight_eq_div_pow]
  rfl

theorem mantissaBits_eq (x : Float) :
    mantissaBits x = (@UnpackedFloat.unpackMantissa .binary64 x.toBits.toBitVec).toNat := by
  rw [UnpackedFloat.unpackMantissa, BitVec.toNat_cast, BitVec.extractLsb_toNat,
    Nat.shiftRight_eq_div_pow, Nat.pow_zero, Nat.div_one]
  rfl

theorem unpack_eq_notANumber_iff {spec : Format} {b : BitVec spec.numBits} :
    UnpackedFloat.unpack spec b = .notANumber ↔
      UnpackedFloat.unpackExponent b = -1#_ ∧ UnpackedFloat.unpackMantissa b ≠ 0#_ := by
  rw [UnpackedFloat.unpack]
  by_cases hexponent : UnpackedFloat.unpackExponent b = -1#_
  · rw [if_pos hexponent]
    by_cases hmantissa : UnpackedFloat.unpackMantissa b = 0#_
    · rw [if_pos hmantissa]
      exact ⟨(by cases ·), fun h => absurd hmantissa h.2⟩
    · rw [if_neg hmantissa]
      exact ⟨fun _ => ⟨hexponent, hmantissa⟩, fun _ => rfl⟩
  · rw [if_neg hexponent]
    refine ⟨fun h => ?_, fun h => absurd h.1 hexponent⟩
    split at h
    · split at h <;> cases h
    · cases h

theorem isNaN_iff {x : Float} : isNaN x = true ↔ x.toModel.unpack = .notANumber := by
  rw [isNaN, Bool.and_eq_true, beq_iff_eq, bne_iff_ne, exponentBits_eq, mantissaBits_eq]
  change _ ↔ UnpackedFloat.unpack .binary64 x.toBits.toBitVec = _
  rw [unpack_eq_notANumber_iff]
  refine and_congr ⟨fun h => BitVec.eq_of_toNat_eq h, fun h => ?_⟩ (not_congr ?_)
  · rw [h]
    rfl
  · exact ⟨fun h => BitVec.eq_of_toNat_eq h, congrArg BitVec.toNat⟩

theorem unpack_pack_ne {spec : Format} {u : UnpackedFloat} (h : u ≠ .notANumber) :
    UnpackedFloat.unpack spec (UnpackedFloat.pack spec u) ≠ .notANumber := by
  have hcomponents {sign : UnpackedFloat.Sign} {exponent : BitVec spec.exponentBits}
      {mantissa : BitVec spec.mantissaBitsWithoutImplicit}
      (h : exponent ≠ -1#_ ∨ mantissa = 0#_) :
      UnpackedFloat.unpack spec (UnpackedFloat.packComponents spec sign exponent mantissa) ≠
        .notANumber := by
    rw [Ne, unpack_eq_notANumber_iff, UnpackedFloat.unpackExponent_packComponents,
      UnpackedFloat.unpackMantissa_packComponents]
    exact fun hnan => h.elim (fun hne => hne hnan.1) hnan.2
  have hzero : BitVec.ofNat spec.exponentBits 0 ≠ -1#_ := by
    intro heq
    have htoNat := congrArg BitVec.toNat heq
    rw [BitVec.neg_one_eq_allOnes, BitVec.toNat_allOnes, BitVec.toNat_zero] at htoNat
    have := Nat.one_lt_two_pow (Nat.ne_of_gt spec.he)
    omega
  cases u with
  | notANumber => exact absurd rfl h
  | infinity s => exact hcomponents (.inr rfl)
  | zero s => exact hcomponents (.inl hzero)
  | finite s m e hm =>
    rw [UnpackedFloat.pack]
    split
    · exact hcomponents (.inr rfl)
    · split
      · refine hcomponents (.inl fun heq => ?_)
        have htoNat := congrArg BitVec.toNat heq
        rw [BitVec.toNat_ofNat, BitVec.neg_one_eq_allOnes, BitVec.toNat_allOnes,
          Nat.mod_eq_of_lt (by omega)] at htoNat
        omega
      · exact hcomponents (.inl hzero)

theorem roundWithAccuracy_ne (s : UnpackedFloat.Sign) (m : Nat) (e : Int)
    (a : UnpackedFloat.Accuracy) :
    UnpackedFloat.roundWithAccuracy .binary64 s m e a ≠ .notANumber := by
  intro h
  simp only [UnpackedFloat.roundWithAccuracy] at h
  split at h <;> cases h

theorem ofNat_ne (n : Nat) : UnpackedFloat.ofNat .binary64 n ≠ .notANumber := by
  rw [UnpackedFloat.ofNat, UnpackedFloat.ofInt, UnpackedFloat.normalize]
  split
  · exact roundWithAccuracy_ne _ _ _ _
  · exact (by cases ·)
  · exact roundWithAccuracy_ne _ _ _ _

theorem mul_finite_ne {u : UnpackedFloat} (h : u ≠ .notANumber) (s : UnpackedFloat.Sign) (m : Nat)
    (e : Int) (hm : 0 < m) :
    UnpackedFloat.mul .binary64 u (.finite s m e hm) ≠ .notANumber := by
  cases u with
  | notANumber => exact absurd rfl h
  | infinity s => exact (by cases ·)
  | zero s => exact (by cases ·)
  | finite s m e hm => exact roundWithAccuracy_ne _ _ _ _

end Binary64

namespace Decimal

open Binary64

theorem isNaN_ofModel_pack {u : UnpackedFloat} (h : u ≠ .notANumber) :
    isNaN (Float.ofModel (Float.Model.pack u)) = false := by
  cases hnan : isNaN (Float.ofModel (Float.Model.pack u)) with
  | false => rfl
  | true => exact absurd (isNaN_iff.1 hnan) (@unpack_pack_ne .binary64 u h)

theorem isNaN_neg {x : Float} (h : isNaN x = false) : isNaN (-x) = false := by
  have hunpack : x.toModel.unpack ≠ .notANumber := fun hnan =>
    Bool.eq_false_iff.1 h (isNaN_iff.2 hnan)
  apply isNaN_ofModel_pack (u := x.toModel.unpack.neg)
  cases hx : x.toModel.unpack with
  | notANumber => exact absurd hx hunpack
  | infinity s => exact (by cases ·)
  | zero s => exact (by cases ·)
  | finite s m e hm => exact (by cases ·)

theorem ofScientific_zero_ne (m : Nat) :
    UnpackedFloat.ofScientific .binary64 m 0 ≠ .notANumber := by
  by_cases hm : m = 0
  · rw [UnpackedFloat.ofScientific, dif_pos hm]
    exact (by cases ·)
  · have hpos : (0 : Int) < 2 ^ Format.binary64.exponentBits := by decide
    rw [UnpackedFloat.ofScientific, dif_neg hm, if_neg (by decide), if_neg (by omega),
      if_pos (by decide)]
    exact mul_finite_ne (by cases ·) _ _ _ _

theorem unpack_one :
    (Float.ofBits 0x3FF0000000000000).toModel.unpack =
      .finite .positive 4503599627370496 (-52) (by decide) := by
  rfl

theorem isNaN_mul_one {x : Float} (h : isNaN x = false) :
    isNaN (x * Float.ofBits 0x3FF0000000000000) = false := by
  apply isNaN_ofModel_pack
  rw [unpack_one]
  refine mul_finite_ne (fun hnan => ?_) _ _ _ _
  rw [isNaN_iff.2 hnan] at h
  cases h

theorem isNaN_toFloat (m : Nat) : isNaN (toFloat ⟨m, 0⟩) = false := by
  simp only [toFloat]
  split
  · decide +kernel
  · split
    · decide +kernel
    · rw [Float.ofScientific]
      split
      · exact isNaN_mul_one (isNaN_ofModel_pack (ofNat_ne _))
      · exact isNaN_ofModel_pack (ofScientific_zero_ne m)

theorem isNaN_floatOfInt (n : Int) : isNaN (floatOfInt n) = false := by
  rw [floatOfInt, toSignedFloat]
  split
  · exact isNaN_neg (isNaN_toFloat n.natAbs)
  · exact isNaN_toFloat n.natAbs

end Decimal

end Segmentation
