import Segmentation.Customer
import Segmentation.Sql.Condition
import Segmentation.Sql.Query
import Segmentation.Word

namespace Segmentation.Sql.Customers

def columns : List String :=
  ["id", "owner_id", "name", "email", "spend", "visits", "last_order_date", "created_at"]

def toRow (c : Customer) : Row :=
  [("id", .uuid c.id), ("owner_id", .text c.owner), ("name", .text c.name),
    ("email", .text c.email), ("spend", .float c.spend), ("visits", .int c.visits),
    ("last_order_date", .optional .ofInstant c.lastOrder),
    ("created_at", .ofInstant c.createdAt)]

def ofRow (row : Row) : Except Database.Fault Customer := do
  return {
    id := ← row.get "id" Value.uuid?
    owner := ← row.get "owner_id" Value.text?
    name := ← row.get "name" Value.text?
    email := ← row.get "email" Value.text?
    spend := ← row.get "spend" Value.float?
    visits := ← row.get "visits" Value.int?
    lastOrder := ← row.get "last_order_date" (Value.orNull? Value.instant?)
    createdAt := ← row.get "created_at" Value.instant? }

def scope (filter : Filter) (owner : String) : List Piece :=
  [.keyword "WHERE", .keyword "owner_id", .keyword "=", .bind (.text owner), .keyword "AND"] ++
    Condition.ofFilter filter

def countPieces (filter : Filter) (owner : String) : List Piece :=
  [.keyword "SELECT", .word (.function "COUNT"), .keyword "*", .word .closing, .keyword "FROM",
    .keyword "customers"] ++ scope filter owner

def count (filter : Filter) (owner : String) : Query Nat where
  statement := .ofPieces (countPieces filter owner)
  read o := o.first fun row => (row.get "count" Value.int?).map Int.toNat

def ordering : List Piece :=
  ["ORDER", "BY", "last_order_date", "DESC", "NULLS", "LAST"].map Piece.keyword ++
    [.word .comma, .keyword "id", .keyword "ASC"]

def findPieces (filter : Filter) (owner : String) (limit : Nat) : List Piece :=
  [.keyword "SELECT"] ++
    (Word.separated (columns.map fun c => [.plain c])).map .word ++
    [.keyword "FROM", .keyword "customers"] ++ scope filter owner ++ ordering ++
    [.keyword "LIMIT", .bind (.int (min limit Word.maxInt))]

def find (filter : Filter) (owner : String) (limit : Nat) : Query (List Customer) where
  statement := .ofPieces (findPieces filter owner limit)
  read o := o.all ofRow

end Segmentation.Sql.Customers
