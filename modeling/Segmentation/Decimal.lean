import Segmentation.Binary64

namespace Segmentation

/-- The value `digits * 10 ^ exponent`. -/
structure Decimal where
  digits : Nat
  exponent : Int
  deriving DecidableEq, Repr

namespace Decimal

def width (n : Nat) : Nat :=
  (Nat.toDigits 10 n).length

def ofDigits (digits : List Char) : Nat :=
  digits.foldl (fun n c => 10 * n + (c.toNat - '0'.toNat)) 0

/-- The binary number nearest to a decimal, ties to the even mantissa; infinity beyond the range.
The two bounds only spare the arithmetic of powers whose result is known. -/
def toFloat (d : Decimal) : Float :=
  let point : Int := width d.digits + d.exponent
  if d.digits = 0 ∨ point < -330 then 0.0
  else if 320 < point then Binary64.infinity
  else Float.ofScientific d.digits (d.exponent < 0) d.exponent.natAbs

def toSignedFloat (negative : Bool) (d : Decimal) : Float :=
  if negative then -d.toFloat else d.toFloat

def floatOfInt (n : Int) : Float :=
  toSignedFloat (n < 0) ⟨n.natAbs, 0⟩

end Decimal

end Segmentation
