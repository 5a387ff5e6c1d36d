import Segmentation.Proofs.Sql.Selection
import Segmentation.Proofs.Store.Holdings
import Segmentation.Sql.Schema
import Segmentation.Sql.Segments

namespace Segmentation.Sql

/-- A table: its name, its columns, and the lists of columns in which no two rows may be equal. -/
structure Relation where
  name : String
  columns : List String
  unique : List (List String)
  deriving DecidableEq, Repr

namespace Relation

def wordsOf (line : String) : List String :=
  (line.toList.splitBy fun c d => isMark c == isMark d).filterMap fun run =>
    if run.any isMark then none else some (String.ofList run)
where
  isMark (c : Char) : Bool := !(c.isAlphanum || c == '_')

def read (r : Relation) (line : String) : Relation :=
  match wordsOf line with
  | [] => r
  | ["CREATE", "TABLE", "IF", "NOT", "EXISTS", name] => { r with name }
  | "CONSTRAINT" :: _ :: "UNIQUE" :: columns => { r with unique := r.unique ++ [columns] }
  | [column, _, "PRIMARY", "KEY"] =>
    { r with columns := r.columns ++ [column], unique := r.unique ++ [[column]] }
  | column :: _ => { r with columns := r.columns ++ [column] }

def ofScript (lines : List String) : Relation :=
  lines.foldl read ⟨"", [], []⟩

end Relation

def Schema.segmentsRelation : Relation :=
  .ofScript Schema.segments

theorem Schema.segmentsRelation_eq :
    segmentsRelation = ⟨Segments.table, Segments.columns, [["id"], ["owner_id", "name"]]⟩ := by
  decide +kernel

namespace Command

def cut? (mark : Word) : List Word → Option (List Word × List Word)
  | [] => none
  | w :: rest =>
    if w = mark then some ([], rest)
    else (cut? mark rest).map fun (before, after) => (w :: before, after)

def parts (mark : Word) : List Word → List (List Word)
  | [] => [[]]
  | w :: rest =>
    if w = mark then [] :: parts mark rest
    else (parts mark rest).modifyHead (w :: ·)

def column? : List Word → Option String
  | [.plain column] => some column
  | _ => none

def slot? : List Word → Option Nat
  | [.slot n] => some n
  | _ => none

def equation? : List Word → Option (String × Nat)
  | [.plain column, .plain "=", .slot n] => some (column, n)
  | _ => none

def directed? : List Word → Option (String × Direction)
  | [.plain column, .plain "ASC"] => some (column, .ascending)
  | [.plain column, .plain "DESC"] => some (column, .descending)
  | _ => none

/-- Columns and numbers of values, paired by their places. -/
def insert? : List Word → Option Command
  | .plain table :: .opening :: rest => do
    let (columns, rest) ← cut? .closing rest
    let columns ← (parts .comma columns).mapM column?
    match rest with
    | .plain "VALUES" :: .opening :: rest => do
      let (slots, rest) ← cut? .closing rest
      let slots ← (parts .comma slots).mapM slot?
      if slots.length = columns.length ∧ rest = [] then some (.insert table (columns.zip slots))
      else none
    | _ => none
  | _ => none

def update? : List Word → Option Command
  | .plain table :: .plain "SET" :: rest => do
    let (columns, key) ← cut? (.plain "WHERE") rest
    return .update table (← (parts .comma columns).mapM equation?) (← equation? key)
  | _ => none

def select? (words : List Word) : Option Command := do
  let (columns, rest) ← cut? (.plain "FROM") words
  let columns ← (parts .comma columns).mapM column?
  match rest with
  | .plain table :: .plain "WHERE" :: rest =>
    match cut? (.plain "ORDER") rest with
    | none => return .select columns table (← (parts (.plain "AND") rest).mapM equation?) []
    | some (keys, .plain "BY" :: order) =>
      return .select columns table (← (parts (.plain "AND") keys).mapM equation?)
        (← (parts .comma order).mapM directed?)
    | some _ => none
  | _ => none

def ofWords? : List Word → Option Command
  | .plain "INSERT" :: .plain "INTO" :: rest => insert? rest
  | .plain "UPDATE" :: rest => update? rest
  | .plain "SELECT" :: rest => select? rest
  | _ => none

end Command

def Statement.bound? (s : Statement) : Option Bound :=
  (Command.ofWords? s.words).map (⟨·, s.values⟩)

namespace Value

/-- Whether two values are equal; nothing where one of them is not there, or the server refuses to
compare them. -/
def equal? (v w : Option Value) : Option Truth := do
  holds? .eq (← v) (← w)

theorem equal?_text (a b : String) : equal? (some (.text a)) (some (.text b)) =
    some (some (decide (a = b))) := by
  refine congrArg (fun holds => some (some holds)) ?_
  change (compare a b == Ordering.eq) = _
  rw [Bool.eq_iff_iff, beq_iff_eq, decide_eq_true_eq]
  exact Std.LawfulEqOrd.compare_eq_iff_eq

theorem equal?_uuid (a b : Uuid) : equal? (some (.uuid a)) (some (.uuid b)) =
    some (some (decide (a = b))) := by
  refine congrArg (fun holds => some (some holds)) ?_
  change (compare a b == Ordering.eq) = _
  rw [Bool.eq_iff_iff, beq_iff_eq, decide_eq_true_eq]
  exact ⟨Uuid.eq_of_compare, fun h => h ▸ Std.ReflCmp.compare_self⟩

end Value

namespace Row

def set (row : Row) (columns : Row) : Row :=
  columns.foldl (fun row c => Table.place c.1 c.2 row) row

def pick? (row : Row) (columns : List String) : Option Row :=
  columns.mapM fun column => (Table.lookup column row).map (column, ·)

def order? : List (String × Direction) → Row → Row → Option Ordering
  | [], _, _ => some .eq
  | (column, direction) :: rest, a, b => do
    let first ← (← Table.lookup column a).order? (← Table.lookup column b)
    let directed := match direction with
      | .ascending => first
      | .descending => first.swap
    return directed.then (← order? rest a b)

/-- Whether a row may stand before another one. -/
def Precedes (order : List (String × Direction)) (a b : Row) : Prop :=
  ∃ o, order? order a b = some o ∧ o.isLE = true

end Row

namespace Relation

variable (r : Relation)

/-- Whether two rows are equal in all columns of a list in which no two may be. A missing value is
equal to none. -/
def clash (a b : Row) : Bool :=
  r.unique.any fun key => key.all fun column =>
    Value.equal? (Table.lookup column a) (Table.lookup column b) == some (some true)

def IsKeyed (rows : List Row) : Prop :=
  rows.Pairwise fun a b => r.clash a b = false

end Relation

namespace Bound

variable (b : Bound)

def pair? (columns : List (String × Nat)) : Option Row :=
  columns.mapM fun c => (b.value? c.2).map (c.1, ·)

def equation? (row : Row) (key : String × Nat) : Option Truth :=
  Value.equal? (Table.lookup key.1 row) (b.value? key.2)

def meets (keys : List (String × Nat)) (row : Row) : Bool :=
  keys.all fun key => b.equation? row key == some (some true)

/-- Whether the server can tell of all rows if they are meant. -/
def tells (keys : List (String × Nat)) (rows : List Row) : Bool :=
  rows.all fun row => keys.all fun key => (b.equation? row key).isSome

/-- The rows that a command would leave behind, and how many it would have changed. -/
def change? (r : Relation) (rows : List Row) : Option (List Row × Nat) :=
  match b.command with
  | .insert table columns => do
    let row ← (← b.pair? columns).pick? r.columns
    if table = r.name ∧ columns.all (r.columns.contains ·.1) then some (row :: rows, 1) else none
  | .update table columns key => do
    let changes ← b.pair? columns
    if table = r.name ∧ columns.all (r.columns.contains ·.1) ∧ b.tells [key] rows then
      some (rows.map fun row => if b.meets [key] row then row.set changes else row,
        rows.countP (b.meets [key]))
    else none
  | .select .. => none

/-- What a server may answer to a command, and the rows that it then has. -/
inductive Runs (r : Relation) (rows : List Row) : Except Database.Fault Outcome → List Row → Prop
  | changed {made rows' : List Row} {n : Nat} :
      b.change? r rows = some (made, n) → r.IsKeyed made → rows'.Perm made →
      Runs r rows (.ok ⟨[], n⟩) rows'
  | refused {made : List Row} {n : Nat} (text : String) :
      b.change? r rows = some (made, n) → ¬r.IsKeyed made →
      Runs r rows (.error (.rejected Database.Fault.uniqueViolation text)) rows
  | selected {columns : List String} {keys : List (String × Nat)}
    {order : List (String × Direction)} {found picked : List Row} :
      b.command = .select columns r.name keys order → b.tells keys rows →
      found.Perm (rows.filter (b.meets keys)) → found.Pairwise (Row.Precedes order) →
      found.mapM (·.pick? columns) = some picked →
      Runs r rows (.ok ⟨picked, picked.length⟩) rows

variable {b}

theorem runs_change_iff {r : Relation} {rows made rows' : List Row} {n : Nat}
    {answer : Except Database.Fault Outcome} (hchange : b.change? r rows = some (made, n)) :
    b.Runs r rows answer rows' ↔
      r.IsKeyed made ∧ rows'.Perm made ∧ answer = .ok ⟨[], n⟩ ∨
        ¬r.IsKeyed made ∧ rows' = rows ∧
          ∃ text, answer = .error (.rejected Database.Fault.uniqueViolation text) := by
  constructor
  · intro hruns
    cases hruns with
    | changed h hkeyed hperm =>
      rw [hchange] at h
      cases h
      exact .inl ⟨hkeyed, hperm, rfl⟩
    | refused text h hkeyed =>
      rw [hchange] at h
      cases h
      exact .inr ⟨hkeyed, rfl, text, rfl⟩
    | selected hcommand =>
      rw [change?, hcommand] at hchange
      cases hchange
  · rintro (⟨hkeyed, hperm, rfl⟩ | ⟨hkeyed, rfl, text, rfl⟩)
    · exact .changed hchange hkeyed hperm
    · exact .refused text hchange hkeyed

end Bound

/-- What a query may come to on a table, and the rows that the table then has. -/
def Query.Gives {α : Type} (q : Query α) (r : Relation) (rows : List Row)
    (result : Except Failure α) (rows' : List Row) : Prop :=
  ∃ b answer, q.statement.bound? = some b ∧ b.Runs r rows answer rows' ∧ result = q.result answer

theorem Query.gives_iff_of_bound? {α : Type} {q : Query α} {r : Relation} {b : Bound}
    {rows rows' : List Row} {result : Except Failure α} (hbound : q.statement.bound? = some b) :
    q.Gives r rows result rows' ↔
      ∃ answer, b.Runs r rows answer rows' ∧ result = q.result answer := by
  constructor
  · rintro ⟨b', answer, hb', hruns, hresult⟩
    rw [hbound] at hb'
    cases hb'
    exact ⟨answer, hruns, hresult⟩
  · rintro ⟨answer, hruns, hresult⟩
    exact ⟨b, answer, hbound, hruns, hresult⟩

end Segmentation.Sql
