import Segmentation.Sql.Value

namespace Segmentation.Sql

inductive Word where
  | plain (s : String)
  | function (name : String)
  | opening
  | closing
  | comma
  /-- The place of the value with a number, counted from one. -/
  | slot (n : Nat)
  deriving DecidableEq, Repr

namespace Word

def text : Word → String
  | plain s => s
  | function name => name ++ "("
  | opening => "("
  | closing => ")"
  | comma => ","
  | slot n => "$" ++ toString n

def isTightAfter : Word → Bool
  | function _ | opening => true
  | _ => false

def isTightBefore : Word → Bool
  | closing | comma => true
  | _ => false

def join : List Word → String
  | [] => ""
  | [w] => w.text
  | v :: w :: rest =>
    v.text ++ (if v.isTightAfter || w.isTightBefore then "" else " ") ++ join (w :: rest)

def separated : List (List Word) → List Word
  | [] => []
  | [ws] => ws
  | ws :: rest => ws ++ comma :: separated rest

end Word

structure Statement where
  words : List Word
  values : List Value
  deriving BEq, Repr

def Statement.text (s : Statement) : String :=
  Word.join s.words

/-- A part of a statement before its places are numbered: a word, or a place with its value. -/
inductive Piece where
  | word (w : Word)
  | bind (v : Value)
  deriving BEq, Repr

namespace Piece

def keyword (s : String) : Piece := word (.plain s)

def value? : Piece → Option Value
  | word _ => none
  | bind v => some v

def number (n : Nat) : List Piece → List Word
  | [] => []
  | word w :: rest => w :: number n rest
  | bind _ :: rest => .slot n :: number (n + 1) rest

end Piece

/-- The statement of pieces, its places numbered from one in their order. -/
def Statement.ofPieces (pieces : List Piece) : Statement :=
  ⟨Piece.number 1 pieces, pieces.filterMap Piece.value?⟩

end Segmentation.Sql
