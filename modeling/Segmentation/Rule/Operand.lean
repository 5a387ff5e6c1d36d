import Segmentation.Json
import Segmentation.Text.Blank
import Segmentation.Text.Numeral
import Segmentation.Decimal.Style

namespace Segmentation.Rule

inductive Operand where
  | number (x : Float)
  | text (s : String)
  deriving DecidableEq, Repr, BEq

namespace Operand

def ofJson? : Json → Option Operand
  | .int n => some (.number (Decimal.floatOfInt n))
  | .num x => some (.number x)
  | .str s => if Text.isBlankText s then none else some (.text s)
  | _ => none

/-- The finite number that the operand is or writes, blanks around it aside. -/
def number? (o : Operand) : Option Float :=
  let value? := match o with
    | .number x => some x
    | .text s => Text.readFloat? (Text.trim s)
  value?.filter fun x => Binary64.isFinite x

def toText : Operand → String
  | .number x => Decimal.Style.plain.write x
  | .text s => s

def toJson : Operand → Json
  | .number x => Json.ofFloat x
  | .text s => .str s

end Operand

end Segmentation.Rule
