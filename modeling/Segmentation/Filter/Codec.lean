import Segmentation.Filter

namespace Segmentation.Filter

open Rule (Combinator Comparator)

def valueToJson : Attribute.Value → Json
  | .number x => .obj [("type", .str "number"), ("value", Json.ofFloat x)]
  | .timestamp t => .obj [("type", .str "timestamp"), ("value", .str t.write)]

/-- The name of a choice inside of a filter; an empty object is as good as null there. -/
def choiceName? : Json → Option String
  | .obj [(name, .obj [])] => some name
  | value => value.choiceName?

def valueOfParts? (kind content : Json) : Option Attribute.Value := do
  match ← choiceName? kind with
  | "number" => content.float?.map .number
  | "timestamp" => (content.str?.bind Instant.read?).map .timestamp
  | _ => none

def valueOfJson? : Json → Option Attribute.Value
  | .obj members => do
    valueOfParts? (← Json.member? "type" members) (← Json.member? "value" members)
  | .arr [kind, content] => valueOfParts? kind content
  | _ => none

def compareOfParts? (a comparator value : Json) : Option Filter := do
  let a ← (choiceName? a).bind Attribute.ofName?
  let comparator ← (choiceName? comparator).bind Comparator.ofName?
  return .compare a comparator (← valueOfJson? value)

def patternOfParts? (a text : Json) : Option Filter := do
  let a ← (choiceName? a).bind Attribute.ofName?
  return .pattern a (← text.str?)

mutual

def toJson : Filter → Json
  | .matchAll => .obj [("type", .str "match_all")]
  | .group combinator clauses =>
    .obj [("type", .str combinator.name), ("clauses", .arr (toItems clauses))]
  | .compare a comparator value =>
    .obj [("type", .str "compare"), ("attribute", .str a.name),
      ("comparator", .str comparator.name), ("value", valueToJson value)]
  | .pattern a text =>
    .obj [("type", .str "pattern"), ("attribute", .str a.name), ("pattern", .str text)]

def toItems : List Filter → List Json
  | [] => []
  | clause :: rest => toJson clause :: toItems rest

end

def formNames : List String :=
  ["match_all", "and", "or", "compare", "pattern"]

/-- The name of a form, given by itself or, inside of a group, by its number. -/
def formName? (inGroup : Bool) : Json → Option String
  | .str name => some name
  | .int n => if inGroup && 0 ≤ n then formNames[n.toNat]? else none
  | _ => none

def leafOfMembers? (form : String) (members : List (String × Json)) : Option Filter :=
  match form with
  | "match_all" => some .matchAll
  | "compare" => do
    compareOfParts? (← Json.member? "attribute" members) (← Json.member? "comparator" members)
      (← Json.member? "value" members)
  | "pattern" => do
    patternOfParts? (← Json.member? "attribute" members) (← Json.member? "pattern" members)
  | _ => none

def leafOfParts? (form : String) (parts : List Json) : Option Filter :=
  match form, parts with
  | "match_all", [] => some .matchAll
  | "compare", [a, comparator, value] => compareOfParts? a comparator value
  | "pattern", [a, text] => patternOfParts? a text
  | _, _ => none

mutual

def decode? (inGroup : Bool) : Json → Option Filter
  | .obj members =>
    match (Json.member? "type" members).bind (formName? inGroup) with
    | none => none
    | some form =>
      match Combinator.ofName? form with
      | some combinator => (clausesAt? members).map (.group combinator)
      | none => leafOfMembers? form members
  | .arr (form :: parts) =>
    match formName? inGroup form with
    | none => none
    | some form =>
      match Combinator.ofName? form with
      | some combinator => (clausesIn? parts).map (.group combinator)
      | none => leafOfParts? form parts
  | _ => none
termination_by structural j => j

def clausesAt? : List (String × Json) → Option (List Filter)
  | [] => none
  | (k, .arr items) :: rest => if k = "clauses" then decodeAll? items else clausesAt? rest
  | (k, _) :: rest => if k = "clauses" then none else clausesAt? rest
termination_by structural members => members

def clausesIn? : List Json → Option (List Filter)
  | [.arr items] => decodeAll? items
  | _ => none
termination_by structural parts => parts

def decodeAll? : List Json → Option (List Filter)
  | [] => some []
  | j :: rest =>
    match decode? true j, decodeAll? rest with
    | some clause, some clauses => some (clause :: clauses)
    | _, _ => none
termination_by structural items => items

end

def ofJson? : Json → Option Filter :=
  decode? false

end Segmentation.Filter
