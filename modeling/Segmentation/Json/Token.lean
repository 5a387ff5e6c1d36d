import Segmentation.Decimal.Scaled
import Segmentation.Json
import Segmentation.Text.Hex

namespace Segmentation.Json

inductive Token where
  | openArray
  | closeArray
  | openObject
  | closeObject
  | colon
  | comma
  | null
  | bool (b : Bool)
  /-- A number, with its value unless it is out of range. -/
  | number (value : Option Json)
  /-- A quoted text, with its characters unless half a surrogate pair stands in it. -/
  | text (value : Option String)
  | fault

namespace Token

def isBlank (c : Char) : Bool :=
  c = ' ' || c = '\n' || c = '\t' || c = '\r'

/-- A character of a quoted text: a code unit of a `\u` escape, or any other character. -/
inductive Piece where
  | char (c : Char)
  | unit (u : Nat)

def pieces : List Char → Option (List Piece × List Char)
  | [] => none
  | '"' :: rest => some ([], rest)
  | '\\' :: 'u' :: a :: b :: c :: d :: rest => do
    let unit ← Text.Hex.number? [a, b, c, d]
    let (ps, tail) ← pieces rest
    some (.unit unit :: ps, tail)
  | '\\' :: e :: rest => do
    let c ← match e with
      | '"' => some '"'
      | '\\' => some '\\'
      | '/' => some '/'
      | 'b' => some (Char.ofNat 0x08)
      | 'f' => some (Char.ofNat 0x0C)
      | 'n' => some '\n'
      | 'r' => some '\r'
      | 't' => some '\t'
      | _ => none
    let (ps, tail) ← pieces rest
    some (.char c :: ps, tail)
  | c :: rest =>
    if c = '\\' ∨ c.toNat < 0x20 then none
    else do
      let (ps, tail) ← pieces rest
      some (.char c :: ps, tail)

def isHighSurrogate (u : Nat) : Bool := 0xD800 ≤ u && u < 0xDC00

def isLowSurrogate (u : Nat) : Bool := 0xDC00 ≤ u && u < 0xE000

/-- The characters of the pieces; a high surrogate needs a low one behind it. -/
def chars : List Piece → Option (List Char)
  | [] => some []
  | .char c :: rest => (chars rest).map (c :: ·)
  | .unit high :: .unit low :: rest =>
    if isHighSurrogate high then
      if isLowSurrogate low then
        (chars rest).map (Char.ofNat (0x10000 + (high - 0xD800) * 0x400 + (low - 0xDC00)) :: ·)
      else none
    else if isLowSurrogate high then none
    else (chars (.unit low :: rest)).map (Char.ofNat high :: ·)
  | .unit u :: rest =>
    if isHighSurrogate u || isLowSurrogate u then none
    else (chars rest).map (Char.ofNat u :: ·)

/-- A whole number that is kept as such: it fits 64 bits, and is not a negative zero. -/
def wholeValue? (negative : Bool) (n : Nat) : Option Int :=
  if negative then if 0 < n ∧ Word.minInt ≤ -(n : Int) then some (-n) else none
  else if n ≤ Word.maxNat then some n
  else none

def digits? (s : List Char) : Option (List Char × List Char) :=
  let digits := s.takeWhile Char.isDigit
  if digits.isEmpty then none else some (digits, s.dropWhile Char.isDigit)

def whole? (s : List Char) : Option (List Char × List Char) :=
  (digits? s).filter fun (digits, _) => digits.head? != some '0' || digits.length == 1

def fraction? : List Char → Option (Option (List Char) × List Char)
  | '.' :: rest => (digits? rest).map fun (digits, tail) => (some digits, tail)
  | s => some (none, s)

def exponent? : List Char → Option (Option Int × List Char)
  | c :: rest =>
    if c = 'e' ∨ c = 'E' then
      let (negative, rest) := Text.Numeral.splitSign rest
      (digits? rest).map fun (digits, tail) =>
        let magnitude : Int := Decimal.ofDigits digits
        (some (if negative then -magnitude else magnitude), tail)
    else some (none, c :: rest)
  | [] => some (none, [])

/-- The value of a number, unless it is out of range. One that is not kept as whole is read to a
number near to it. -/
def numberValue (negative : Bool) (whole : List Char) (fraction : Option (List Char))
    (exponent : Option Int) : Option Json :=
  let x := Text.Numeral.toFloatNear ⟨negative, whole, fraction.getD [], exponent.getD 0⟩
  let near := if Binary64.isFinite x then some (Json.num x) else none
  match fraction, exponent with
  | none, none => ((wholeValue? negative (Decimal.ofDigits whole)).map .int).or near
  | _, _ => near

def splitMinus : List Char → Bool × List Char
  | '-' :: rest => (true, rest)
  | rest => (false, rest)

/-- The number at the front of a text, and what follows it: a minus sign or none, digits without
a leading zero, a point followed by digits or none, an exponent or none. -/
def number? (s : List Char) : Option (Option Json × List Char) := do
  let (negative, s) := splitMinus s
  let (whole, s) ← whole? s
  let (fraction, s) ← fraction? s
  let (exponent, s) ← exponent? s
  return (numberValue negative whole fraction exponent, s)

def next (c : Char) (rest : List Char) : Token × List Char :=
  match c, rest with
  | '[', rest => (.openArray, rest)
  | ']', rest => (.closeArray, rest)
  | '\x7b', rest => (.openObject, rest)
  | '\x7d', rest => (.closeObject, rest)
  | ':', rest => (.colon, rest)
  | ',', rest => (.comma, rest)
  | 'n', 'u' :: 'l' :: 'l' :: rest => (.null, rest)
  | 't', 'r' :: 'u' :: 'e' :: rest => (.bool true, rest)
  | 'f', 'a' :: 'l' :: 's' :: 'e' :: rest => (.bool false, rest)
  | '"', rest =>
    match pieces rest with
    | none => (.fault, rest)
    | some (ps, tail) => (.text ((chars ps).map String.ofList), tail)
  | c, rest =>
    if c = '-' ∨ c.isDigit then
      match number? (c :: rest) with
      | none => (.fault, rest)
      | some (value, tail) => (.number value, tail)
    else (.fault, rest)

/-- The tokens of a text, at most one for a unit of fuel. -/
def scan : Nat → List Char → List Token
  | 0, _ => []
  | _ + 1, [] => []
  | fuel + 1, c :: rest =>
    if isBlank c then scan fuel rest
    else
      let (token, tail) := next c rest
      match token with
      | .fault => [.fault]
      | token => token :: scan fuel tail

end Token

def tokens (s : String) : List Token :=
  Token.scan (s.length + 1) s.toList

end Segmentation.Json
