import Segmentation.Rule.Node
import Segmentation.Json.Writer

namespace Segmentation.Rule

inductive Problem where
  | treeNotObject
  | nodeNotObject
  | malformedGroup
  | unknownCombinator (name : String)
  | missingField
  | unknownField (name : String)
  | missingOperator (label : String)
  | invalidOperator (symbol label : String)
  | missingValue (label : String)
  | invalidNumber (field : Field) (value : String)
  deriving DecidableEq, Repr

namespace Problem

def message : Problem → String
  | treeNotObject => "Invalid query: not an object"
  | nodeNotObject => "Invalid rule node: not an object"
  | malformedGroup => "Invalid group node: missing combinator or rules array"
  | unknownCombinator name => "Invalid combinator: " ++ name
  | missingField => "Missing field in rule"
  | unknownField name => "Unknown field: " ++ name
  | missingOperator label => "Missing operator for field: " ++ label
  | invalidOperator symbol label => "Invalid operator " ++ symbol ++ " for field " ++ label
  | missingValue label => "Missing value for field: " ++ label
  | invalidNumber field value => "Invalid numeric value for " ++ field.name ++ ": " ++ value

end Problem

def filledText? (key : String) (members : List (String × Json)) : Option String :=
  ((Json.member? key members).bind Json.str?).filter fun s => !s.isEmpty

/-- A value as a message shows it: a text as it is, anything else as compact JSON. -/
def shown : Json → String
  | .str s => s
  | value => value.write

def fieldLabel (members : List (String × Json)) : String :=
  (filledText? "field" members).getD "undefined"

def fieldProblems (members : List (String × Json)) : List Problem :=
  match filledText? "field" members with
  | none => [.missingField]
  | some name => if (Field.ofName? name).isSome then [] else [.unknownField name]

def operatorProblems (members : List (String × Json)) : List Problem :=
  match filledText? "operator" members with
  | none => [.missingOperator (fieldLabel members)]
  | some symbol =>
    if (Operator.ofSymbol? symbol).any Operator.isExposed then []
    else [.invalidOperator symbol (fieldLabel members)]

/-- A field that is not known has no kind of value to check against. -/
def valueProblems (members : List (String × Json)) : List Problem :=
  let missing := [Problem.missingValue (fieldLabel members)]
  match Json.member? "value" members with
  | none => missing
  | some .null => missing
  | some value =>
    if value.str?.any Text.isBlankText then missing
    else match (filledText? "field" members).bind Field.ofName? with
      | none => []
      | some field =>
        if field.isNumeric && ((Operand.ofJson? value).bind Operand.number?).isNone then
          [.invalidNumber field (shown value)]
        else []

def conditionProblems (members : List (String × Json)) : List Problem :=
  fieldProblems members ++ operatorProblems members ++ valueProblems members

def combinatorProblems (name : String) : List Problem :=
  if (Combinator.ofUserName? name).isSome then [] else [.unknownCombinator name]

mutual

/-- What is wrong with a node and the nodes below it. A group without a child list has no nodes
below it; one with an unknown combinator has. -/
def nodeProblems : Json → List Problem
  | .obj members =>
    if isGroup members then
      match combinatorText? members, problemsAt (childKey members) members with
      | some name, some below => combinatorProblems name ++ below
      | _, _ => [.malformedGroup]
    else conditionProblems members
  | _ => [.nodeNotObject]
termination_by structural j => j

def problemsAt (key : String) : List (String × Json) → Option (List Problem)
  | [] => none
  | (k, .arr items) :: rest => if k = key then some (itemProblems items) else problemsAt key rest
  | (k, _) :: rest => if k = key then none else problemsAt key rest
termination_by structural members => members

def itemProblems : List Json → List Problem
  | [] => []
  | j :: rest => nodeProblems j ++ itemProblems rest
termination_by structural items => items

end

def problems : Json → List Problem
  | .obj members => nodeProblems (.obj members)
  | _ => [.treeNotObject]

def isAccepted (tree : Json) : Bool :=
  (problems tree).isEmpty

end Segmentation.Rule
