import Segmentation.Rule.Field
import Segmentation.Rule.Operator
import Segmentation.Rule.Operand

namespace Segmentation.Rule

inductive Combinator where
  | and
  | or
  deriving DecidableEq, Repr

namespace Combinator

def name : Combinator → String
  | and => "and"
  | or => "or"

def ofName? : String → Option Combinator
  | "and" => some and
  | "or" => some or
  | _ => none

/-- The combinator that a user means, letters of any case. -/
def ofUserName? (s : String) : Option Combinator :=
  ofName? (Text.lowerAscii s)

def word : Combinator → String
  | and => "AND"
  | or => "OR"

end Combinator

/-- A condition; a part that is missing or not understood is absent. -/
structure Condition where
  field : Option Field
  operator : Option Operator
  operand : Option Operand
  deriving DecidableEq, Repr

def Condition.incomplete : Condition := ⟨none, none, none⟩

inductive Node where
  | group (combinator : Combinator) (rules : List Node)
  | condition (c : Condition)
  deriving BEq, Repr

instance : Inhabited Node := ⟨.condition .incomplete⟩

/-- The key of the child list: `rules`, and only where that is absent, `children`. -/
def childKey (members : List (String × Json)) : String :=
  if Json.hasMember "rules" members then "rules" else "children"

def isGroup (members : List (String × Json)) : Bool :=
  Json.hasMember "combinator" members || Json.hasMember (childKey members) members

def combinatorText? (members : List (String × Json)) : Option String :=
  (Json.member? "combinator" members).bind Json.str?

namespace Condition

def ofMembers (members : List (String × Json)) : Condition where
  field := ((Json.member? "field" members).bind Json.str?).bind Field.ofName?
  operator := ((Json.member? "operator" members).bind Json.str?).bind Operator.ofSymbol?
  operand := (Json.member? "value" members).bind Operand.ofJson?

def toMembers (c : Condition) : List (String × Json) :=
  (c.field.map fun f => ("field", .str f.name)).toList ++
    (c.operator.map fun o => ("operator", .str o.symbol)).toList ++
    (c.operand.map fun v => ("value", v.toJson)).toList

end Condition

namespace Node

mutual

def ofJson : Json → Node
  | .obj members =>
    if isGroup members then
      match combinatorText? members, nodesAt (childKey members) members with
      | some name, some rules => .group ((Combinator.ofUserName? name).getD .and) rules
      | _, _ => .condition .incomplete
    else .condition (.ofMembers members)
  | _ => .condition .incomplete
termination_by structural j => j

def nodesAt (key : String) : List (String × Json) → Option (List Node)
  | [] => none
  | (k, .arr items) :: rest => if k = key then some (ofItems items) else nodesAt key rest
  | (k, _) :: rest => if k = key then none else nodesAt key rest
termination_by structural members => members

def ofItems : List Json → List Node
  | [] => []
  | j :: rest => ofJson j :: ofItems rest
termination_by structural items => items

end

mutual

def toJson : Node → Json
  | .group combinator rules =>
    .obj [("combinator", .str combinator.name), ("rules", .arr (toItems rules))]
  | .condition c => .obj c.toMembers

def toItems : List Node → List Json
  | [] => []
  | node :: rest => toJson node :: toItems rest

end

end Node

end Segmentation.Rule
