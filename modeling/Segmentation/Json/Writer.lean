import Segmentation.Json
import Segmentation.Decimal.Style
import Segmentation.Text.Hex

namespace Segmentation.Json

/-- Numbers have a point or an exponent; an exponent stands outside `1e-5 ≤ x < 1e16`. -/
def numberStyle : Decimal.Style where
  tie := .even
  leastPositional := some (-5)
  firstScientific := some 16
  wholeMark := ".0"
  plusSign := "+"

def escapeChar (c : Char) : List Char :=
  if c = '"' then ['\\', '"']
  else if c = '\\' then ['\\', '\\']
  else if c.toNat = 0x08 then ['\\', 'b']
  else if c.toNat = 0x09 then ['\\', 't']
  else if c.toNat = 0x0A then ['\\', 'n']
  else if c.toNat = 0x0C then ['\\', 'f']
  else if c.toNat = 0x0D then ['\\', 'r']
  else if c.toNat < 0x20 then '\\' :: 'u' :: Text.Hex.digits c.toNat 4
  else [c]

def quote (s : String) : String :=
  "\"" ++ String.ofList (s.toList.flatMap escapeChar) ++ "\""

mutual

def writeWith (number : Float → String) : Json → String
  | .null => "null"
  | .bool b => if b then "true" else "false"
  | .int n => toString n
  | .num x => number x
  | .str s => quote s
  | .arr items => "[" ++ ",".intercalate (writeItems number items) ++ "]"
  | .obj members => "\x7b" ++ ",".intercalate (writeMembers number members) ++ "\x7d"

def writeItems (number : Float → String) : List Json → List String
  | [] => []
  | v :: rest => writeWith number v :: writeItems number rest

def writeMembers (number : Float → String) : List (String × Json) → List String
  | [] => []
  | (k, v) :: rest => (quote k ++ ":" ++ writeWith number v) :: writeMembers number rest

end

/-- Compact text; a number that is not finite is written as null. -/
def write : Json → String :=
  writeWith fun x => if Binary64.isFinite x then numberStyle.write x else "null"

end Segmentation.Json
