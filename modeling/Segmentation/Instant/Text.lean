import Segmentation.Instant.Calendar
import Segmentation.Decimal
import Segmentation.Text.Blank

namespace Segmentation.Instant

def padded (width n : Nat) : String :=
  let digits := toString n
  String.ofList (List.replicate (width - digits.length) '0') ++ digits

def writeYear (year : Int) : String :=
  if year < 0 then "-" ++ padded 4 year.natAbs
  else if 9999 < year then "+" ++ padded 4 year.natAbs
  else padded 4 year.natAbs

def writeFraction (nanos : Nat) : String :=
  if nanos = 0 then ""
  else if nanos % 1000000 = 0 then "." ++ padded 3 (nanos / 1000000)
  else if nanos % 1000 = 0 then "." ++ padded 6 (nanos / 1000)
  else "." ++ padded 9 nanos

def writeLocal (t : Instant) : String :=
  let date := Date.ofDayNumber (t.seconds / 86400)
  let second := t.secondOfDay.toNat
  writeYear date.year ++ "-" ++ padded 2 date.month ++ "-" ++ padded 2 date.day ++ "T" ++
    padded 2 (second / 3600) ++ ":" ++ padded 2 (second / 60 % 60) ++ ":" ++
    padded 2 (second % 60 + t.fraction / 1000000000) ++ writeFraction (t.fraction % 1000000000)

/-- The form in data, where the offset of UTC is `Z`. -/
def write (t : Instant) : String :=
  writeLocal t ++ "Z"

/-- The form in running text, where the offset of UTC is `+00:00`. -/
def writeWithOffset (t : Instant) : String :=
  writeLocal t ++ "+00:00"

namespace Reading

def skipBlanks (s : List Char) : List Char :=
  s.dropWhile Text.isBlank

def number? (width : Nat) (s : List Char) : Option (Nat × List Char) :=
  let digits := (s.take width).takeWhile Char.isDigit
  if digits.isEmpty then none else some (Decimal.ofDigits digits, s.drop digits.length)

/-- A year: four digits at most, or a sign and any number of digits. -/
def year? (s : List Char) : Option (Int × List Char) :=
  match s with
  | '-' :: rest => (number? rest.length rest).map fun (n, tail) => (-(n : Int), tail)
  | '+' :: rest => (number? rest.length rest).map fun (n, tail) => ((n : Int), tail)
  | s => (number? 4 s).map fun (n, tail) => ((n : Int), tail)

def mark? (mark : Char) (s : List Char) : Option (List Char) :=
  match skipBlanks s with
  | c :: rest => if c = mark then some rest else none
  | [] => none

def markedNumber? (mark : Char) (s : List Char) : Option (Nat × List Char) :=
  (mark? mark s).bind fun rest => number? 2 (skipBlanks rest)

def date? (s : List Char) : Option (Date × List Char) := do
  let (year, s) ← year? (skipBlanks s)
  let (month, s) ← markedNumber? '-' s
  let (day, s) ← markedNumber? '-' s
  let date : Date := ⟨year, month, day⟩
  if date.isValid then some (date, s) else none

def fraction? (s : List Char) : Option (Nat × List Char) :=
  match s with
  | '.' :: rest =>
    let digits := rest.takeWhile Char.isDigit
    let kept := digits.take 9
    if digits.isEmpty then none
    else some (Decimal.ofDigits kept * Nat.pow 10 (9 - kept.length), rest.dropWhile Char.isDigit)
  | s => some (0, s)

/-- Seconds since midnight and nanoseconds past them, more than a second of these in second sixty
of a minute. -/
def time? (s : List Char) : Option ((Nat × Nat) × List Char) := do
  let (hour, s) ← number? 2 (skipBlanks s)
  let (minute, s) ← markedNumber? ':' s
  let (second, s) ← markedNumber? ':' s
  let (fraction, s) ← fraction? s
  let ofMinute := (hour * 60 + minute) * 60
  if 24 ≤ hour ∨ 60 ≤ minute ∨ 60 < second then none
  else if second = 60 then some ((ofMinute + 59, 1000000000 + fraction), s)
  else some ((ofMinute + second, fraction), s)

def twoDigits? (s : List Char) : Option (Nat × List Char) :=
  match s with
  | a :: b :: rest =>
    if a.isDigit && b.isDigit then some (Decimal.ofDigits [a, b], rest) else none
  | _ => none

def utc : List Char := ['u', 't', 'c']

def offset? (s : List Char) : Option (Int × List Char) :=
  if (s.take 3).map Char.toLower = utc then some (0, s.drop 3)
  else match s with
  | 'Z' :: rest | 'z' :: rest => some (0, rest)
  | sign :: rest => do
    let negative ←
      if sign = '+' then some false
      else if sign = '-' ∨ sign.toNat = 0x2212 then some true
      else none
    let (hours, s) ← twoDigits? rest
    let (minutes, s) ← twoDigits? (s.dropWhile fun c => c = ':' || Text.isBlank c)
    let seconds : Int := ((hours * 60 + minutes) * 60 : Nat)
    if minutes < 60 ∧ seconds < 86400 then some (if negative then -seconds else seconds, s)
    else none
  | [] => none

def separator? (s : List Char) : Option (List Char) :=
  match s with
  | 'T' :: rest | 't' :: rest | ' ' :: rest => some rest
  | _ => none

end Reading

open Reading in
/-- The instant that a text names. The local date, too, has to be in range. -/
def read? (s : String) : Option Instant := do
  let (date, s) ← date? s.toList
  let s ← separator? s
  let ((second, fraction), s) ← time? s
  let (offset, s) ← offset? (skipBlanks s)
  if (skipBlanks s).isEmpty then
    let here ← ofParts? (date.dayNumber * 86400 + second) fraction
    ofParts? (here.seconds - offset) fraction
  else none

end Segmentation.Instant
