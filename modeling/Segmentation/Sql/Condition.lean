import Segmentation.Filter
import Segmentation.Sql.Statement

namespace Segmentation.Sql

open Rule (Combinator Comparator)

namespace Condition

def ofBool (b : Bool) : List Piece :=
  [.keyword (if b then "TRUE" else "FALSE")]

def bind : Attribute.Value → Piece
  | .number x => .bind (.float x)
  | .timestamp t => .bind (.ofInstant t)

def fits (a : Attribute) : Attribute.Value → Bool
  | .number _ => !a.isTemporal
  | .timestamp _ => a.isTemporal

def ofCompare (a : Attribute) (comparator : Comparator) (value : Attribute.Value) : List Piece :=
  let column := Piece.keyword a.column
  if !fits a value then ofBool (comparator == .ne)
  else if comparator = .ne then
    [.word .opening, column, .keyword "IS", .keyword "NULL", .keyword "OR", column,
      .keyword comparator.sql, bind value, .word .closing]
  else [column, .keyword comparator.sql, bind value]

def ofPattern (a : Attribute) (pattern : String) : List Piece :=
  [.word (.function "CAST"), .keyword a.column, .keyword "AS", .keyword "TEXT", .word .closing,
    .keyword "~*", .bind (.text pattern)]

def ofEmpty : Combinator → List Piece
  | .and => ofBool true
  | .or => ofBool false

mutual

def ofFilter : Filter → List Piece
  | .matchAll => ofBool true
  | .group combinator [] => ofEmpty combinator
  | .group combinator (clause :: rest) =>
    .word .opening :: (ofFilter clause ++ (further combinator rest ++ [.word .closing]))
  | .compare a comparator value => ofCompare a comparator value
  | .pattern a text => ofPattern a text

def further (combinator : Combinator) : List Filter → List Piece
  | [] => []
  | clause :: rest => .keyword combinator.word :: (ofFilter clause ++ further combinator rest)

end

end Condition

end Segmentation.Sql
