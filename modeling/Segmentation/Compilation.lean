import Segmentation.Filter
import Segmentation.Filter.Codec
import Segmentation.Word

namespace Segmentation

open Rule

inductive Drop where
  | incomplete (c : Condition)
  | patternOnDate (field : Field)
  | notNumeric (field : Field) (operand : Operand)
  | outOfRange (field : Field) (days : Float)
  deriving Repr

namespace Drop

def message : Drop → String
  | incomplete _ => "Dropping incomplete condition"
  | patternOnDate _ => "Dropping pattern condition on a relative date field"
  | notNumeric _ _ => "Dropping condition with non-numeric value"
  | outOfRange _ _ => "Dropping condition with out-of-range day count"

end Drop

namespace Cutoff

def millisPerDay : Float := 86400000.0

/-- A span of time in milliseconds; the two ends of its range differ only in sign. -/
def span? (millis : Int) : Option Int :=
  if millis.natAbs ≤ Word.maxInt then some millis else none

end Cutoff

/-- The instant that many days before `now`, the days rounded to whole milliseconds. -/
def cutoff? (now : Instant) (days : Float) : Option Instant := do
  let millis ← Binary64.round? (days * Cutoff.millisPerDay)
  if millis.natAbs ≤ -Word.minInt then
    let span ← Cutoff.span? (Word.clampInt millis)
    now.before? span
  else none

namespace Rule.Condition

/-- A comparison with a field, given as a number. An older last order is a greater number of days
since it, so a comparison of days is the swapped comparison of instants. -/
def compileComparison (now : Instant) (field : Field) (comparator : Comparator)
    (operand : Operand) : Except Drop Filter :=
  match operand.number? with
  | none => .error (.notNumeric field operand)
  | some x =>
    match field.source with
    | .direct a => .ok (.compare a comparator (.number x))
    | .daysSince a =>
      match cutoff? now x with
      | none => .error (.outOfRange field x)
      | some t => .ok (.compare a comparator.swap (.timestamp t))

def compileSearch (field : Field) (operand : Operand) : Except Drop Filter :=
  match field.source with
  | .direct a => .ok (.pattern a (Filter.Pattern.escape operand.toText))
  | .daysSince _ => .error (.patternOnDate field)

def compile (now : Instant) (c : Condition) : Except Drop Filter :=
  match c.field, c.operator, c.operand with
  | some field, some operator, some operand =>
    match operator.comparator? with
    | some comparator => compileComparison now field comparator operand
    | none => compileSearch field operand
  | _, _, _ => .error (.incomplete c)

end Rule.Condition

namespace Rule.Node

mutual

def compile? (now : Instant) : Node → Option Filter
  | .condition c => (c.compile now).toOption
  | .group combinator rules =>
    match compileAll now rules with
    | [] => none
    | clauses => some (.group combinator clauses)

def compileAll (now : Instant) : List Node → List Filter
  | [] => []
  | node :: rest => (compile? now node).toList ++ compileAll now rest

end

def compile (now : Instant) (node : Node) : Filter :=
  (compile? now node).getD .matchAll

mutual

def drops (now : Instant) : Node → List Drop
  | .condition c =>
    match c.compile now with
    | .ok _ => []
    | .error d => [d]
  | .group _ rules => dropsAll now rules

def dropsAll (now : Instant) : List Node → List Drop
  | [] => []
  | node :: rest => drops now node ++ dropsAll now rest

end

end Rule.Node

def compileRules (now : Instant) (rules : Json) : Filter :=
  (Rule.Node.ofJson rules).compile now

end Segmentation
