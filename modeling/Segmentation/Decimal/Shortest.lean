import Segmentation.Decimal

namespace Segmentation.Decimal

inductive Tie where
  | up
  | even
  deriving DecidableEq, Repr

/-- The reals that round to a binary number, as numerators over `4`, all times `2 ^ exponent`. -/
structure RoundingInterval where
  low : Nat
  centre : Nat
  high : Nat
  closed : Bool
  exponent : Int

namespace RoundingInterval

def ofDyadic (d : Binary64.Dyadic) (isBinadeStart : Bool) : RoundingInterval where
  low := 4 * d.mantissa - if isBinadeStart then 1 else 2
  centre := 4 * d.mantissa
  high := 4 * d.mantissa + 2
  closed := d.mantissa % 2 == 0
  exponent := d.exponent - 2

/-- What a step of the decimal grid `10 ^ e` weighs against a unit of the interval. -/
def gridWeight (i : RoundingInterval) (e : Int) : Nat :=
  Nat.pow 10 e.toNat * Nat.pow 2 (-i.exponent).toNat

/-- What a unit of the interval weighs against a step of the decimal grid `10 ^ e`. -/
def unitWeight (i : RoundingInterval) (e : Int) : Nat :=
  Nat.pow 2 i.exponent.toNat * Nat.pow 10 (-e).toNat

def contains (i : RoundingInterval) (c : Nat) (e : Int) : Bool :=
  let point := c * i.gridWeight e
  let low := i.low * i.unitWeight e
  let high := i.high * i.unitWeight e
  if i.closed then low ≤ point && point ≤ high else low < point && point < high

/-- The neighbour of the centre on the grid `10 ^ e` that lies in the interval, the nearer one if
both do. -/
def neighbour? (i : RoundingInterval) (tie : Tie) (e : Int) : Option Nat :=
  let centre := i.centre * i.unitWeight e
  let weight := i.gridWeight e
  let below := centre / weight
  let above := below + 1
  match i.contains below e, i.contains above e with
  | true, false => some below
  | false, true => some above
  | false, false => none
  | true, true =>
    let toBelow := centre - below * weight
    let toAbove := above * weight - centre
    if toBelow < toAbove then some below
    else if toAbove < toBelow then some above
    else match tie with
      | .up => some above
      | .even => if below % 2 = 0 then some below else some above

/-- The place of the decimal point: the least `k` near the estimate with the centre below
`10 ^ k`. -/
def pointPlace (i : RoundingInterval) : Int :=
  let estimate : Int := ((i.centre.log2 : Int) + i.exponent) * 30103 / 100000
  let isAbove (k : Int) : Bool := i.centre * i.unitWeight k < i.gridWeight k
  if isAbove (estimate - 1) then estimate - 1
  else if isAbove estimate then estimate
  else if isAbove (estimate + 1) then estimate + 1
  else estimate + 2

end RoundingInterval

def dropZeros (digits : Nat) (exponent : Int) : Nat → Decimal
  | 0 => ⟨digits, exponent⟩
  | fuel + 1 =>
    if digits ≠ 0 ∧ digits % 10 = 0 then dropZeros (digits / 10) (exponent + 1) fuel
    else ⟨digits, exponent⟩

/-- The first grid, from one digit up to seventeen, that has a neighbour in the interval. -/
def shortestIn (i : RoundingInterval) (tie : Tie) : Decimal :=
  let place := i.pointPlace
  let found := (List.range 17).findSome? fun (n : Nat) =>
    let e : Int := place - (n + 1)
    (i.neighbour? tie e).map fun c => (c, e)
  match found with
  | some (c, e) => dropZeros c e 20
  | none => ⟨0, 0⟩

/-- The fewest digits that read back as the magnitude of `x`, the nearest such decimal. -/
def shortest (tie : Tie) (x : Float) : Option Decimal :=
  (Binary64.dyadic? x).map fun d =>
    if d.mantissa = 0 then ⟨0, 0⟩
    else shortestIn (.ofDyadic d (Binary64.isBinadeStart x)) tie

end Segmentation.Decimal
