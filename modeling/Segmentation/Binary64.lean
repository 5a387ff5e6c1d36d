namespace Segmentation.Binary64

/-- The value `mantissa * 2 ^ exponent`, negated if `negative`. -/
structure Dyadic where
  negative : Bool
  mantissa : Nat
  exponent : Int
  deriving DecidableEq, Repr

def signWeight : Nat := 0x8000000000000000

def exponentWeight : Nat := 0x10000000000000

def isNegative (x : Float) : Bool :=
  x.toBits.toNat / signWeight % 2 == 1

def exponentBits (x : Float) : Nat :=
  x.toBits.toNat / exponentWeight % 2048

def mantissaBits (x : Float) : Nat :=
  x.toBits.toNat % exponentWeight

def isNaN (x : Float) : Bool :=
  exponentBits x == 2047 && mantissaBits x != 0

def isFinite (x : Float) : Bool :=
  exponentBits x != 2047

def dyadic? (x : Float) : Option Dyadic :=
  if exponentBits x = 2047 then none
  else if exponentBits x = 0 then some ⟨isNegative x, mantissaBits x, -1074⟩
  else some ⟨isNegative x, exponentWeight + mantissaBits x, exponentBits x - 1075⟩

def isBinadeStart (x : Float) : Bool :=
  mantissaBits x == 0 && 1 < exponentBits x

theorem dyadic?_isSome (x : Float) : (dyadic? x).isSome = isFinite x := by
  unfold dyadic? isFinite
  split
  · simp_all
  · split <;> simp_all

/-- The bits without the sign grow with the magnitude, so this whole number orders all numbers. -/
def orderKey (x : Float) : Int :=
  let magnitude : Int := (x.toBits.toNat % signWeight : Nat)
  if isNegative x then -magnitude else magnitude

/-- The order of two numbers; a NaN has none. Both zeros are equal. -/
def compare? (x y : Float) : Option Ordering :=
  if isNaN x || isNaN y then none else some (compare (orderKey x) (orderKey y))

namespace Dyadic

def round (d : Dyadic) : Int :=
  let magnitude : Nat :=
    if 0 ≤ d.exponent then d.mantissa * Nat.pow 2 d.exponent.toNat
    else
      let unit := Nat.pow 2 (-d.exponent).toNat
      (2 * d.mantissa + unit) / (2 * unit)
  if d.negative then -(magnitude : Int) else magnitude

end Dyadic

/-- The nearest whole number, a half going away from zero; none for an infinity or NaN. -/
def round? (x : Float) : Option Int :=
  (dyadic? x).map Dyadic.round

def infinity : Float := Float.ofBits 0x7FF0000000000000

def nan : Float := Float.ofBits 0x7FF8000000000000

end Segmentation.Binary64
