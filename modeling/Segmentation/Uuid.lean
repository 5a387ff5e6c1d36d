import Segmentation.Text.Hex

namespace Segmentation

structure Uuid where
  value : Nat
  lt_bound : value < 0x100000000000000000000000000000000 := by decide
  deriving DecidableEq, Repr

namespace Uuid

instance : Ord Uuid := ⟨fun a b => compare a.value b.value⟩

instance : Inhabited Uuid := ⟨{ value := 0 }⟩

/-- Cuts a list into groups of the given lengths; the rest is the last group. -/
def groups {α : Type} (s : List α) : List Nat → List (List α)
  | [] => [s]
  | n :: lengths => s.take n :: groups (s.drop n) lengths

def write (u : Uuid) : String :=
  "-".intercalate ((groups (Text.Hex.digits u.value 32) [8, 4, 4, 4]).map String.ofList)

def ofDigits? (s : List Char) : Option Uuid := do
  let value ← Text.Hex.number? s
  if h : s.length = 32 ∧ value < 0x100000000000000000000000000000000 then some ⟨value, h.2⟩
  else none

def ofHyphenated? (s : List Char) : Option Uuid :=
  match groups s [8, 1, 4, 1, 4, 1, 4, 1] with
  | [a, ['-'], b, ['-'], c, ['-'], d, ['-'], e] => ofDigits? (a ++ b ++ c ++ d ++ e)
  | _ => none

def urn : List Char := "urn:uuid:".toList

def read? (text : String) : Option Uuid :=
  let s := text.toList
  if s.length = 32 then ofDigits? s
  else if s.length = 36 then ofHyphenated? s
  else if s.length = 38 then
    if s.head? = some '\x7b' ∧ s.getLast? = some '\x7d' then ofHyphenated? (s.drop 1).dropLast
    else none
  else if s.length = 45 then
    if (s.take 9).map Char.toLower = urn then ofHyphenated? (s.drop 9) else none
  else none

end Uuid

end Segmentation
