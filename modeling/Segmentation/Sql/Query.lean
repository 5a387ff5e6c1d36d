import Segmentation.Failure
import Segmentation.Sql.Statement
import Segmentation.Table

namespace Segmentation.Sql

abbrev Row := List (String × Value)

structure Outcome where
  rows : List Row
  affected : Nat
  deriving BEq, Repr

structure Query (α : Type) where
  statement : Statement
  read : Outcome → Except Failure α
  /-- What it means that the server refuses the statement. -/
  refused : Database.Fault → Failure := Failure.database

def Query.result {α : Type} (q : Query α) (answer : Except Database.Fault Outcome) :
    Except Failure α :=
  match answer with
  | .ok outcome => q.read outcome
  | .error f => .error (q.refused f)

namespace Row

/-- A column read as a type; a failure says which column cannot be. -/
def get {α : Type} (row : Row) (column : String) (read : Value → Option α) :
    Except Database.Fault α :=
  match (Table.lookup column row).bind read with
  | some a => .ok a
  | none => .error (.undecodable column)

end Row

namespace Outcome

variable {α : Type}

def all (o : Outcome) (read : Row → Except Database.Fault α) : Except Failure (List α) :=
  (o.rows.mapM read).mapError .database

/-- The first row, if there is one; the others are not looked at. -/
def first? (o : Outcome) (read : Row → Except Database.Fault α) : Except Failure (Option α) :=
  match o.rows with
  | [] => .ok none
  | row :: _ => ((read row).map some).mapError .database

def first (o : Outcome) (read : Row → Except Database.Fault α) : Except Failure α :=
  match o.rows with
  | [] => .error (.database .noRow)
  | row :: _ => (read row).mapError .database

end Outcome

end Segmentation.Sql
