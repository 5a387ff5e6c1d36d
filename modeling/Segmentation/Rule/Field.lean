import Segmentation.Attribute

namespace Segmentation.Rule

inductive Field where
  | spend
  | visits
  | inactiveDays
  deriving DecidableEq, Repr

/-- What a field is computed from: the value of an attribute, or the days since it. -/
inductive Source where
  | direct (a : Attribute)
  | daysSince (a : Attribute)
  deriving DecidableEq, Repr

namespace Field

def all : List Field := [spend, visits, inactiveDays]

def name : Field → String
  | spend => "spend"
  | visits => "visits"
  | inactiveDays => "inactiveDays"

def ofName? (s : String) : Option Field :=
  all.find? fun f => f.name == s

theorem ofName?_name (f : Field) : ofName? f.name = some f := by
  cases f <;> rfl

def source : Field → Source
  | spend => .direct .spend
  | visits => .direct .visits
  | inactiveDays => .daysSince .lastOrderDate

def isNumeric : Field → Bool
  | spend | visits | inactiveDays => true

def index (f : Field) : Nat :=
  all.idxOf f

end Field

namespace Source

def base : Source → Attribute
  | direct a | daysSince a => a

end Source

end Segmentation.Rule
