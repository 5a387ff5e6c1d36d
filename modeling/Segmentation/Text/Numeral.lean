import Segmentation.Decimal
import Segmentation.Text.Ascii

namespace Segmentation.Text

structure Numeral where
  negative : Bool
  whole : List Char
  fraction : List Char
  exponent : Int
  deriving DecidableEq, Repr

namespace Numeral

def decimal (n : Numeral) : Decimal :=
  ⟨Decimal.ofDigits (n.whole ++ n.fraction), n.exponent - n.fraction.length⟩

def toFloat (n : Numeral) : Float :=
  n.decimal.toSignedFloat n.negative

def splitSign : List Char → Bool × List Char
  | '-' :: rest => (true, rest)
  | '+' :: rest => (false, rest)
  | rest => (false, rest)

/-- The exponent part of a number: nothing, or `e` with a sign and at least one digit. -/
def exponent? : List Char → Option Int
  | [] => some 0
  | c :: rest =>
    if c = 'e' ∨ c = 'E' then
      let (negative, digits) := splitSign rest
      if digits.isEmpty || !digits.all Char.isDigit then none
      else
        let magnitude : Int := Decimal.ofDigits digits
        some (if negative then -magnitude else magnitude)
    else none

def ofUnsigned? (negative : Bool) (s : List Char) : Option Numeral :=
  let whole := s.takeWhile Char.isDigit
  let (fraction, rest) := match s.dropWhile Char.isDigit with
    | '.' :: tail => (tail.takeWhile Char.isDigit, tail.dropWhile Char.isDigit)
    | tail => ([], tail)
  if whole.isEmpty && fraction.isEmpty then none
  else (exponent? rest).map fun e => ⟨negative, whole, fraction, e⟩

def ofChars? (s : List Char) : Option Numeral :=
  let (negative, rest) := splitSign s
  ofUnsigned? negative rest

end Numeral

def namedFloat? (s : List Char) : Option Float :=
  let (negative, rest) := Numeral.splitSign s
  let name := String.ofList rest
  let value? :=
    if sameIgnoringCase name "inf" || sameIgnoringCase name "infinity" then
      some Binary64.infinity
    else if sameIgnoringCase name "nan" then some Binary64.nan
    else none
  value?.map fun x => if negative then -x else x

def readFloat? (s : String) : Option Float :=
  match namedFloat? s.toList with
  | some x => some x
  | none => (Numeral.ofChars? s.toList).map Numeral.toFloat

/-- An optional sign, here only `+`, and at least one digit. -/
def readNat? (s : String) : Option Nat :=
  let digits := match s.toList with
    | '+' :: rest => rest
    | cs => cs
  if digits.isEmpty || !digits.all Char.isDigit then none else some (Decimal.ofDigits digits)

def readInt? (s : String) : Option Int :=
  let (negative, digits) := Numeral.splitSign s.toList
  if digits.isEmpty || !digits.all Char.isDigit then none
  else
    let magnitude : Int := Decimal.ofDigits digits
    some (if negative then -magnitude else magnitude)

end Segmentation.Text
