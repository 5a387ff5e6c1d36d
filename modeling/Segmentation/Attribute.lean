import Segmentation.Instant.Text
import Segmentation.Decimal.Style

namespace Segmentation

inductive Attribute where
  | spend
  | visits
  | lastOrderDate
  deriving DecidableEq, Repr

namespace Attribute

def name : Attribute → String
  | spend => "spend"
  | visits => "visits"
  | lastOrderDate => "lastOrderDate"

def column : Attribute → String
  | spend => "spend"
  | visits => "visits"
  | lastOrderDate => "last_order_date"

def ofName? : String → Option Attribute
  | "spend" => some spend
  | "visits" => some visits
  | "lastOrderDate" => some lastOrderDate
  | _ => none

theorem ofName?_name (a : Attribute) : ofName? a.name = some a := by
  cases a <;> rfl

def isTemporal : Attribute → Bool
  | lastOrderDate => true
  | _ => false

inductive Value where
  | number (x : Float)
  | timestamp (t : Instant)
  deriving DecidableEq, Repr

namespace Value

def compare? : Value → Value → Option Ordering
  | number x, number y => Binary64.compare? x y
  | timestamp s, timestamp t => some (compare s t)
  | _, _ => none

def text : Value → String
  | number x => Decimal.Style.plain.write x
  | timestamp t => t.writeWithOffset

end Value

end Attribute

/-- What a record holds under each attribute, if anything. -/
abbrev Record := Attribute → Option Attribute.Value

end Segmentation
