import Segmentation.Decimal
import Segmentation.Text.Hex
import Segmentation.Text.Split

namespace Segmentation.Database.Internet

/-- A number below 256 without needless zeros in front. -/
def isByte (s : List Char) : Bool :=
  s.all Char.isDigit && (s.length == 1 || s.head?.any (· != '0')) && s.length ≤ 3 &&
    Decimal.ofDigits s < 256

def isFourBytes (s : List Char) : Bool :=
  let parts := Text.splitAll '.' s
  parts.length == 4 && parts.all isByte

def isGroup (s : List Char) : Bool :=
  !s.isEmpty && s.length ≤ 4 && s.all fun c => (Text.Hex.value? c).isSome

/-- How many groups stand between colons. In the last place four bytes may stand for two. -/
def groupCount? (bytesLast : Bool) : List (List Char) → Option Nat
  | [] => some 0
  | [last] =>
    if isGroup last then some 1
    else if bytesLast && isFourBytes last then some 2
    else none
  | part :: rest => if isGroup part then (groupCount? bytesLast rest).map (· + 1) else none

def groupsOf (s : List Char) : List (List Char) :=
  if s.isEmpty then [] else Text.splitAll ':' s

def isEightGroups (s : List Char) : Bool :=
  match Text.splitFirst "::".toList s with
  | none => groupCount? true (groupsOf s) == some 8
  | some (before, after) =>
    match groupCount? false (groupsOf before), groupCount? true (groupsOf after) with
    | some m, some n => m + n ≤ 7
    | _, _ => false

def isAddress (s : List Char) : Bool :=
  isFourBytes s || isEightGroups s

end Segmentation.Database.Internet
