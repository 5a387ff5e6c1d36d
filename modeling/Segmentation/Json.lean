import Segmentation.Decimal
import Segmentation.Table

namespace Segmentation

inductive Json where
  | null
  | bool (b : Bool)
  | int (n : Int)
  | num (x : Float)
  | str (s : String)
  | arr (items : List Json)
  | obj (members : List (String × Json))
  deriving BEq, Repr, Inhabited

namespace Json

def member? (key : String) (members : List (String × Json)) : Option Json :=
  Table.lookup key members

def hasMember (key : String) (members : List (String × Json)) : Bool :=
  (member? key members).isSome

def get? (key : String) : Json → Option Json
  | .obj members => member? key members
  | _ => none

def str? : Json → Option String
  | .str s => some s
  | _ => none

def bool? : Json → Option Bool
  | .bool b => some b
  | _ => none

def int? : Json → Option Int
  | .int n => some n
  | _ => none

def items? : Json → Option (List Json)
  | .arr items => some items
  | _ => none

/-- A number of either kind as a binary number; a whole number is rounded. -/
def float? : Json → Option Float
  | .int n => some (Decimal.floatOfInt n)
  | .num x => some x
  | _ => none

def ofOption {α : Type} (write : α → Json) : Option α → Json
  | none => .null
  | some a => write a

/-- A number is written as null when it is not finite. -/
def ofFloat (x : Float) : Json :=
  if Binary64.isFinite x then .num x else .null

/-- The name of a choice without data: a text, or an object whose only member is that name with
null. -/
def choiceName? : Json → Option String
  | .str s => some s
  | .obj [(name, .null)] => some name
  | _ => none

end Json

end Segmentation
