import Segmentation.Attribute
import Segmentation.Rule.Node
import Segmentation.Filter.Pattern

namespace Segmentation

open Rule (Combinator Comparator)

inductive Filter where
  | matchAll
  | group (combinator : Combinator) (clauses : List Filter)
  | compare (a : Attribute) (comparator : Comparator) (value : Attribute.Value)
  | pattern (a : Attribute) (text : String)
  deriving BEq, Repr

namespace Filter

def isMatchAll : Filter → Bool
  | .matchAll => true
  | _ => false

def compareHolds (comparator : Comparator) (actual? : Option Attribute.Value)
    (value : Attribute.Value) : Bool :=
  match actual?.bind (·.compare? value) with
  | some order => comparator.holds order
  | none => comparator == .ne

def patternHolds (text : String) (actual? : Option Attribute.Value) : Bool :=
  actual?.any fun actual => Pattern.occurs text actual.text

mutual

def selects (record : Record) : Filter → Bool
  | .matchAll => true
  | .group .and clauses => allSelect record clauses
  | .group .or clauses => anySelects record clauses
  | .compare a comparator value => compareHolds comparator (record a) value
  | .pattern a text => patternHolds text (record a)

def allSelect (record : Record) : List Filter → Bool
  | [] => true
  | clause :: rest => selects record clause && allSelect record rest

def anySelects (record : Record) : List Filter → Bool
  | [] => false
  | clause :: rest => selects record clause || anySelects record rest

end

mutual

def predicateCount : Filter → Nat
  | .matchAll => 0
  | .group _ clauses => predicateCounts clauses
  | .compare _ _ _ => 1
  | .pattern _ _ => 1

def predicateCounts : List Filter → Nat
  | [] => 0
  | clause :: rest => predicateCount clause + predicateCounts rest

end

mutual

def text : Filter → String
  | .matchAll => "TRUE"
  | .group combinator clauses =>
    "(" ++ (" " ++ combinator.word ++ " ").intercalate (texts clauses) ++ ")"
  | .compare a comparator value => a.name ++ " " ++ comparator.name ++ " " ++ value.text
  | .pattern a text => a.name ++ " ~* /" ++ text ++ "/"

def texts : List Filter → List String
  | [] => []
  | clause :: rest => text clause :: texts rest

end

theorem allSelect_eq_all (record : Record) (clauses : List Filter) :
    allSelect record clauses = clauses.all (selects record) := by
  induction clauses with
  | nil => simp [allSelect]
  | cons clause rest ih => simp [allSelect, ih]

theorem anySelects_eq_any (record : Record) (clauses : List Filter) :
    anySelects record clauses = clauses.any (selects record) := by
  induction clauses with
  | nil => simp [anySelects]
  | cons clause rest ih => simp [anySelects, ih]

end Filter

end Segmentation
