namespace Segmentation.Rule

inductive Comparator where
  | gt
  | lt
  | eq
  | gte
  | lte
  | ne
  deriving DecidableEq, Repr

namespace Comparator

def name : Comparator → String
  | gt => "gt"
  | lt => "lt"
  | eq => "eq"
  | gte => "gte"
  | lte => "lte"
  | ne => "ne"

def ofName? : String → Option Comparator
  | "gt" => some gt
  | "lt" => some lt
  | "eq" => some eq
  | "gte" => some gte
  | "lte" => some lte
  | "ne" => some ne
  | _ => none

theorem ofName?_name (c : Comparator) : ofName? c.name = some c := by
  cases c <;> rfl

def sql : Comparator → String
  | gt => ">"
  | lt => "<"
  | eq => "="
  | gte => ">="
  | lte => "<="
  | ne => "<>"

def holds : Comparator → Ordering → Bool
  | gt, o => o == .gt
  | lt, o => o == .lt
  | eq, o => o == .eq
  | gte, o => o != .lt
  | lte, o => o != .gt
  | ne, o => o != .eq

def swap : Comparator → Comparator
  | gt => lt
  | lt => gt
  | eq => eq
  | gte => lte
  | lte => gte
  | ne => ne

theorem holds_swap (c : Comparator) (o : Ordering) : c.swap.holds o = c.holds o.swap := by
  cases c <;> cases o <;> rfl

theorem swap_swap (c : Comparator) : c.swap.swap = c := by
  cases c <;> rfl

end Comparator

inductive Operator where
  | greater
  | less
  | equal
  | greaterOrEqual
  | lessOrEqual
  | notEqual
  | contains
  deriving DecidableEq, Repr

namespace Operator

def all : List Operator :=
  [greater, less, equal, greaterOrEqual, lessOrEqual, notEqual, contains]

def symbol : Operator → String
  | greater => ">"
  | less => "<"
  | equal => "="
  | greaterOrEqual => ">="
  | lessOrEqual => "<="
  | notEqual => "!="
  | contains => "contains"

def ofSymbol? (s : String) : Option Operator :=
  all.find? fun o => o.symbol == s

theorem ofSymbol?_symbol (o : Operator) : ofSymbol? o.symbol = some o := by
  cases o <;> rfl

/-- The comparison that the operator stands for; `contains` is a search and stands for none. -/
def comparator? : Operator → Option Comparator
  | greater => some .gt
  | less => some .lt
  | equal => some .eq
  | greaterOrEqual => some .gte
  | lessOrEqual => some .lte
  | notEqual => some .ne
  | contains => none

def isExposed (o : Operator) : Bool :=
  o != contains

def index (o : Operator) : Nat :=
  all.idxOf o

end Operator

end Segmentation.Rule
