import Segmentation.Sql.Query

namespace Segmentation.Sql

inductive Direction where
  | ascending
  | descending
  deriving DecidableEq, Repr

inductive Command where
  | insert (table : String) (columns : List (String × Nat))
  | update (table : String) (columns : List (String × Nat)) (key : String × Nat)
  | select (columns : List String) (table : String) (keys : List (String × Nat))
      (order : List (String × Direction))
  deriving DecidableEq, Repr

namespace Command

def equation (c : String × Nat) : List Word :=
  [.plain c.1, .plain "=", .slot c.2]

def allOf : List (String × Nat) → List Word
  | [] => []
  | [c] => equation c
  | c :: rest => equation c ++ .plain "AND" :: allOf rest

def direction : Direction → Word
  | .ascending => .plain "ASC"
  | .descending => .plain "DESC"

def ordering : List (String × Direction) → List Word
  | [] => []
  | order => [.plain "ORDER", .plain "BY"] ++
      Word.separated (order.map fun o => [.plain o.1, direction o.2])

def inParentheses (items : List (List Word)) : List Word :=
  [.opening] ++ Word.separated items ++ [.closing]

def words : Command → List Word
  | insert table columns =>
    [.plain "INSERT", .plain "INTO", .plain table] ++
      inParentheses (columns.map fun c => [.plain c.1]) ++ [.plain "VALUES"] ++
      inParentheses (columns.map fun c => [.slot c.2])
  | update table columns key =>
    [.plain "UPDATE", .plain table, .plain "SET"] ++ Word.separated (columns.map equation) ++
      [.plain "WHERE"] ++ equation key
  | select columns table keys order =>
    [.plain "SELECT"] ++ Word.separated (columns.map fun c => [.plain c]) ++
      [.plain "FROM", .plain table, .plain "WHERE"] ++ allOf keys ++ ordering order

end Command

structure Bound where
  command : Command
  values : List Value
  deriving BEq, Repr

namespace Bound

def value? (b : Bound) (n : Nat) : Option Value :=
  match n with
  | 0 => none
  | n + 1 => b.values[n]?

def statement (b : Bound) : Statement :=
  ⟨b.command.words, b.values⟩

end Bound

end Segmentation.Sql
