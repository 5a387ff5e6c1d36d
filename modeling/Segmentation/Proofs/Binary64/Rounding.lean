import Mathlib.Data.Rat.Floor
import Mathlib.Tactic
import Segmentation.Binary64

namespace Segmentation.Binary64

/-- Whether `n` is the whole number nearest to `v`, a half going away from zero. -/
structure IsRounded (v : ℚ) (n : ℤ) : Prop where
  near : |v - n| ≤ 1 / 2
  away : |v - n| = 1 / 2 → |v| < |(n : ℚ)|

namespace IsRounded

variable {v : ℚ} {m n : ℤ}

theorem neg (h : IsRounded v n) : IsRounded (-v) (-n) := by
  have hdistance : |-v - ((-n : ℤ) : ℚ)| = |v - n| := by
    rw [Int.cast_neg, ← abs_neg]
    congr 1
    ring
  have hsize : |((-n : ℤ) : ℚ)| = |(n : ℚ)| := by rw [Int.cast_neg, abs_neg]
  constructor
  · rw [hdistance]
    exact h.near
  · rw [hdistance, hsize, abs_neg]
    exact h.away

theorem not_succ (hm : IsRounded v m) : ¬IsRounded v (m + 1) := by
  intro hn
  have hnear := abs_le.1 hm.near
  have hnear' := abs_le.1 hn.near
  push_cast at hnear'
  have hhalf : v = m + 1 / 2 := by linarith
  have haway := hm.away (by rw [hhalf, add_sub_cancel_left, abs_of_pos (by norm_num)])
  have haway' := hn.away (by rw [hhalf]; push_cast; norm_num [abs_of_neg])
  push_cast at haway'
  obtain hneg | hpos := Int.lt_or_le m 0
  · have hle : (m : ℚ) ≤ -1 := by exact_mod_cast Int.le_sub_one_of_lt hneg
    rw [hhalf, abs_of_neg (by linarith), abs_of_nonpos (by linarith)] at haway'
    linarith
  · have hle : (0 : ℚ) ≤ m := by exact_mod_cast hpos
    rw [hhalf, abs_of_nonneg (by linarith), abs_of_nonneg hle] at haway
    linarith

theorem unique (hm : IsRounded v m) (hn : IsRounded v n) : m = n := by
  have hnear := abs_le.1 hm.near
  have hnear' := abs_le.1 hn.near
  have hle : m ≤ n + 1 := by
    have : (m : ℚ) ≤ n + 1 := by linarith
    exact_mod_cast this
  have hle' : n ≤ m + 1 := by
    have : (n : ℚ) ≤ m + 1 := by linarith
    exact_mod_cast this
  obtain h | h | h : m = n ∨ n = m + 1 ∨ m = n + 1 := by omega
  · exact h
  · exact absurd (h ▸ hn) hm.not_succ
  · exact absurd (h ▸ hm) hn.not_succ

end IsRounded

theorem isRounded_floor {v : ℚ} (h : 0 ≤ v) : IsRounded v ⌊v + 1 / 2⌋ := by
  have hle := Int.floor_le (v + 1 / 2)
  have hlt := Int.lt_floor_add_one (v + 1 / 2)
  have hnonneg : (0 : ℚ) ≤ ⌊v + 1 / 2⌋ := by
    exact_mod_cast Int.floor_nonneg.2 (by linarith)
  constructor
  · rw [abs_le]
    constructor <;> linarith
  · intro hhalf
    obtain heq | heq := (abs_eq (by norm_num)).1 hhalf
    · linarith
    · rw [abs_of_nonneg h, abs_of_nonneg hnonneg]
      linarith

theorem isRounded_natCast (n : ℕ) : IsRounded n n := by
  constructor <;> simp

theorem isRounded_div (m : ℕ) {unit : ℕ} (h : 0 < unit) :
    IsRounded (m / unit) ((2 * m + unit) / (2 * unit) : ℕ) := by
  have hunit : (unit : ℚ) ≠ 0 := by exact_mod_cast h.ne'
  have hhalf : (m / unit : ℚ) + 1 / 2 = (2 * m + unit : ℕ) / (2 * unit : ℕ) := by
    push_cast
    field_simp
  have hfloor : ⌊(m / unit : ℚ) + 1 / 2⌋ = ((2 * m + unit) / (2 * unit) : ℕ) := by
    rw [hhalf, Rat.floor_natCast_div_natCast, Int.natCast_ediv]
  rw [← hfloor]
  exact isRounded_floor (by positivity)

namespace Dyadic

def size (d : Dyadic) : ℚ :=
  d.mantissa * 2 ^ d.exponent

def value (d : Dyadic) : ℚ :=
  if d.negative then -d.size else d.size

theorem size_eq_mul {d : Dyadic} (h : 0 ≤ d.exponent) :
    d.size = (d.mantissa * Nat.pow 2 d.exponent.toNat : ℕ) := by
  have hpow : (2 : ℚ) ^ d.exponent = 2 ^ d.exponent.toNat := by
    rw [← zpow_natCast, Int.toNat_of_nonneg h]
  rw [size, hpow, Nat.pow_eq]
  push_cast
  rfl

theorem size_eq_div {d : Dyadic} (h : ¬0 ≤ d.exponent) :
    d.size = d.mantissa / (Nat.pow 2 (-d.exponent).toNat : ℕ) := by
  have hpow : (2 : ℚ) ^ d.exponent = (2 ^ (-d.exponent).toNat)⁻¹ := by
    rw [← zpow_natCast, Int.toNat_of_nonneg (by omega), zpow_neg, inv_inv]
  rw [size, hpow, div_eq_mul_inv, Nat.pow_eq]
  push_cast
  rfl

theorem isRounded_round (d : Dyadic) : IsRounded d.value d.round := by
  have hsize : IsRounded d.size
      ((if 0 ≤ d.exponent then d.mantissa * Nat.pow 2 d.exponent.toNat
        else (2 * d.mantissa + Nat.pow 2 (-d.exponent).toNat) /
          (2 * Nat.pow 2 (-d.exponent).toNat) : ℕ) : ℤ) := by
    split
    · next h =>
      rw [size_eq_mul h]
      exact isRounded_natCast _
    · next h =>
      rw [size_eq_div h]
      exact isRounded_div d.mantissa (Nat.two_pow_pos _)
  rw [value, round]
  split
  · exact hsize.neg
  · exact hsize

end Dyadic

/-- The exact value of a number of the format; an infinity and a NaN have none. -/
def value? (x : Float) : Option ℚ :=
  (dyadic? x).map Dyadic.value

/-- Whether a number of the format has a value and that is rounded to `n`. -/
def RoundsTo (x : Float) (n : ℤ) : Prop :=
  ∃ v, value? x = some v ∧ IsRounded v n

theorem round?_eq_some_iff {x : Float} {n : ℤ} : round? x = some n ↔ RoundsTo x n := by
  rw [round?, RoundsTo, value?]
  cases dyadic? x with
  | none => simp
  | some d =>
    simp only [Option.map_some, Option.some.injEq, exists_eq_left']
    exact ⟨fun h => h ▸ d.isRounded_round, d.isRounded_round.unique⟩

theorem RoundsTo.unique {x : Float} {m n : ℤ} (hm : RoundsTo x m) (hn : RoundsTo x n) : m = n :=
  Option.some.inj ((round?_eq_some_iff.2 hm).symm.trans (round?_eq_some_iff.2 hn))

theorem exists_roundsTo_iff {x : Float} : (∃ n, RoundsTo x n) ↔ isFinite x = true := by
  simp only [← round?_eq_some_iff, ← Option.isSome_iff_exists]
  rw [round?, Option.isSome_map, dyadic?_isSome]

end Segmentation.Binary64
