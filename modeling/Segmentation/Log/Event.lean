import Segmentation.Compilation
import Segmentation.Json.Writer
import Segmentation.Log.Directive
import Segmentation.Text.Unprintable

namespace Segmentation.Log

inductive Value where
  | plain (s : String)
  | quoted (s : String)
  | bool (b : Bool)
  | int (n : Int)
  | float (x : Float)
  | condition (c : Rule.Condition)

inductive Event where
  | started (service format : String) (metrics : Bool)
  | listening (address : String)
  | refused (operation : String) (errors : Nat)
  | dropped (d : Drop)
  | stopping

namespace Event

def level : Event → Level
  | started _ _ _ | listening _ | stopping => .info
  | refused _ _ | dropped _ => .debug

def target : Event → String
  | started _ _ _ | stopping => "crm_shared::observability"
  | listening _ | refused _ _ => "crm_shared::observability::metrics"
  | dropped _ => "segment_engine::compiler"

def message : Event → String
  | started _ _ _ => "Observability initialized"
  | listening address => "Metrics server listening on " ++ address
  | refused _ _ => "Rule tree rejected"
  | dropped d => d.message
  | stopping => "Shutting down observability..."

def dropFields : Drop → List (String × Value)
  | .incomplete c => [("cond", .condition c)]
  | .patternOnDate field => [("field", .plain field.name)]
  | .notNumeric field operand => [("field", .plain field.name), ("value", .plain operand.toText)]
  | .outOfRange field days => [("field", .plain field.name), ("days", .float days)]

def fields : Event → List (String × Value)
  | started service format metrics =>
    [("service", .plain service), ("log_format", .plain format), ("metrics_enabled", .bool metrics)]
  | refused operation errors => [("operation", .quoted operation), ("error_count", .int errors)]
  | dropped d => dropFields d
  | listening _ | stopping => []

end Event

namespace Line

/-- Numbers in text lines have a point or an exponent; an exponent stands outside
`1e-4 ≤ x < 1e16`. -/
def numberStyle : Decimal.Style where
  tie := .up
  leastPositional := some (-4)
  firstScientific := some 16
  wholeMark := ".0"
  plusSign := ""

/-- A character between quotes; one that a reader would not see as it is, is written by its
number. -/
def escapeChar (c : Char) : List Char :=
  if c = '"' then ['\\', '"']
  else if c = '\\' then ['\\', '\\']
  else if c = '\n' then ['\\', 'n']
  else if c = '\r' then ['\\', 'r']
  else if c = '\t' then ['\\', 't']
  else if c.toNat = 0 then ['\\', '0']
  else if Text.isUnprintable c then
    ['\\', 'u', '\x7b'] ++ Nat.toDigits 16 c.toNat ++ ['\x7d']
  else [c]

def quote (s : String) : String :=
  "\"" ++ String.ofList (s.toList.flatMap escapeChar) ++ "\""

def fieldName : Rule.Field → String
  | .spend => "Spend"
  | .visits => "Visits"
  | .inactiveDays => "InactiveDays"

def operatorName : Rule.Operator → String
  | .greater => "Gt"
  | .less => "Lt"
  | .equal => "Eq"
  | .greaterOrEqual => "Gte"
  | .lessOrEqual => "Lte"
  | .notEqual => "Ne"
  | .contains => "Contains"

def operandName : Rule.Operand → String
  | .number x => "Number(" ++ numberStyle.write x ++ ")"
  | .text s => "Text(" ++ quote s ++ ")"

def part {α : Type} (name : α → String) : Option α → String
  | none => "None"
  | some a => "Some(" ++ name a ++ ")"

def condition (c : Rule.Condition) : String :=
  "Condition \x7b field: " ++ part fieldName c.field ++ ", operator: " ++
    part operatorName c.operator ++ ", value: " ++ part operandName c.operand ++ " \x7d"

def value : Value → String
  | .plain s => s
  | .quoted s => quote s
  | .bool b => if b then "true" else "false"
  | .int n => toString n
  | .float x => numberStyle.write x
  | .condition c => condition c

def levelName (l : Level) : String :=
  Text.upperAscii l.name

def text (e : Event) : String :=
  levelName e.level ++ " " ++ e.target ++ ": " ++
    " ".intercalate (e.message :: e.fields.map fun f => f.1 ++ "=" ++ value f.2)

def valueJson : Value → Json
  | .plain s | .quoted s => .str s
  | .bool b => .bool b
  | .int n => .int n
  | .float x => Json.ofFloat x
  | .condition c => .str (condition c)

def toJson (e : Event) : Json :=
  .obj [("level", .str (levelName e.level)), ("target", .str e.target),
    ("fields", .obj (("message", .str e.message) :: e.fields.map fun f => (f.1, valueJson f.2)))]

end Line

end Segmentation.Log
