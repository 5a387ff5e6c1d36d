import Segmentation.Decimal.Shortest

namespace Segmentation.Decimal

structure Style where
  tie : Tie
  /-- The least decimal exponent written without an exponent part. -/
  leastPositional : Option Int
  /-- The first decimal exponent too great to be written without an exponent part. -/
  firstScientific : Option Int
  wholeMark : String
  plusSign : String

def Style.plain : Style where
  tie := .up
  leastPositional := none
  firstScientific := none
  wholeMark := ""
  plusSign := ""

namespace Style

def isPositional (s : Style) (exponent : Int) : Bool :=
  s.leastPositional.all (· ≤ exponent) && s.firstScientific.all (exponent < ·)

def positional (s : Style) (digits : String) (place : Int) : String :=
  let count : Int := digits.length
  if place ≤ 0 then "0." ++ String.ofList (List.replicate (-place).toNat '0') ++ digits
  else if count ≤ place then
    digits ++ String.ofList (List.replicate (place - count).toNat '0') ++ s.wholeMark
  else
    let cs := digits.toList
    String.ofList (cs.take place.toNat) ++ "." ++ String.ofList (cs.drop place.toNat)

def scientific (s : Style) (digits : String) (exponent : Int) : String :=
  let mantissa := match digits.toList with
    | [] => ""
    | [c] => String.singleton c
    | c :: rest => String.singleton c ++ "." ++ String.ofList rest
  let sign := if exponent < 0 then "-" else s.plusSign
  mantissa ++ "e" ++ sign ++ toString exponent.natAbs

def magnitude (s : Style) (d : Decimal) : String :=
  if d.digits = 0 then "0" ++ s.wholeMark
  else
    let digits := toString d.digits
    let place : Int := digits.length + d.exponent
    if s.isPositional (place - 1) then s.positional digits place
    else s.scientific digits (place - 1)

def write (s : Style) (x : Float) : String :=
  match shortest s.tie x with
  | some d => (if Binary64.isNegative x then "-" else "") ++ s.magnitude d
  | none =>
    if Binary64.isNaN x then "NaN" else if Binary64.isNegative x then "-inf" else "inf"

end Style

end Segmentation.Decimal
