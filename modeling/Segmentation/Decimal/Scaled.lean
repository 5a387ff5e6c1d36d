import Segmentation.Text.Numeral
import Segmentation.Word

namespace Segmentation

namespace Decimal

def maxPower : Nat := 308

def power (n : Nat) : Float :=
  toFloat ⟨1, n⟩

/-- A number divided by the greatest power of ten over and over, and last by a smaller one. -/
def divided (x : Float) (last : Nat) : Nat → Float
  | 0 => x / power last
  | times + 1 => if x == 0 then x else divided (x / power maxPower) last times

/-- A binary number near to a decimal, but not always the nearest one: the digits are rounded first,
and the result is rounded again when it is multiplied with a power of ten or divided by one. -/
def scaled (d : Decimal) : Float :=
  let x := toFloat ⟨d.digits, 0⟩
  let places := d.exponent.natAbs
  if 0 ≤ d.exponent then
    if places ≤ maxPower then x * power places
    else if d.digits = 0 then x else Binary64.infinity
  else
    let times := (places - 1) / maxPower
    divided x (places - times * maxPower) times

end Decimal

namespace Text.Numeral

def takeDigits (n : Nat) : List Char → Nat × List Char
  | [] => (n, [])
  | c :: rest =>
    let longer := 10 * n + (c.toNat - '0'.toNat)
    if longer ≤ Word.maxNat then takeDigits longer rest else (n, c :: rest)

/-- The leading digits, as many as fit 64 bits. Of those left over, the ones before the point count
as places. -/
def leading (n : Numeral) : Decimal :=
  let (digits, whole) := takeDigits 0 n.whole
  let (digits, fraction) := takeDigits digits n.fraction
  ⟨digits, n.exponent + whole.length - (n.fraction.length - fraction.length : Nat)⟩

def toFloatNear (n : Numeral) : Float :=
  let x := n.leading.scaled
  if n.negative then -x else x

end Text.Numeral

end Segmentation
