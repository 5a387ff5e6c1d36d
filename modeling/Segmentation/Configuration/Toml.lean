import Segmentation.Configuration.Setting
import Segmentation.Text.Hex
import Segmentation.Text.Numeral
import Segmentation.Text.Split
import Segmentation.Word

namespace Segmentation.Configuration.Toml

inductive Line where
  | blank
  | header (name : String)
  | entry (name : String) (s : Setting)

def isSpace (c : Char) : Bool :=
  c = ' ' || c = '\t'

def isControl (c : Char) : Bool :=
  (c.toNat < 0x20 && c != '\t') || c.toNat = 0x7F

def isEnd (s : List Char) : Bool :=
  match s.dropWhile isSpace with
  | [] => true
  | c :: comment => c = '#' && !comment.any isControl

def isNameChar (c : Char) : Bool :=
  c.isAlphanum || c = '_' || c = '-'

def name? (s : List Char) : Option (String × List Char) :=
  let name := (s.dropWhile isSpace).takeWhile isNameChar
  if name.isEmpty then none
  else some (String.ofList name, ((s.dropWhile isSpace).dropWhile isNameChar).dropWhile isSpace)

/-- Digits of a base up to sixteen, between which single underscores may stand. -/
def digitsOf? (base : Nat) : List Char → Option (List Char)
  | [] => none
  | [c] => if isDigitOf c then some [c] else none
  | c :: '_' :: rest => if isDigitOf c then (digitsOf? base rest).map (c :: ·) else none
  | c :: rest => if isDigitOf c then (digitsOf? base rest).map (c :: ·) else none
where
  isDigitOf (c : Char) : Bool := (Text.Hex.value? c).any (· < base)

def digits? (s : List Char) : Option (List Char) :=
  digitsOf? 10 s

/-- Digits of which the first is no zero, unless it is the only one. -/
def whole? (s : List Char) : Option (List Char) :=
  (digits? s).filter fun digits => digits.head? != some '0' || digits.length == 1

def exponent? (s : List Char) : Option Int :=
  let (negative, digits) := Text.Numeral.splitSign s
  (digits? digits).map fun digits =>
    let magnitude : Int := Decimal.ofDigits digits
    if negative then -magnitude else magnitude

def splitExponent (s : List Char) : List Char × Option (List Char) :=
  let isMark (c : Char) : Bool := c = 'e' || c = 'E'
  match s.dropWhile fun c => !isMark c with
  | [] => (s, none)
  | _ :: exponent => (s.takeWhile fun c => !isMark c, some exponent)

def unsigned? (negative : Bool) (s : List Char) : Option Setting := do
  let (mantissa, exponent) := splitExponent s
  let (whole, fraction) := match Text.splitFirst ['.'] mantissa with
    | some (whole, fraction) => (whole, some fraction)
    | none => (mantissa, none)
  let whole ← whole? whole
  match fraction, exponent with
  | none, none =>
    let magnitude : Int := Decimal.ofDigits whole
    let n := if negative then -magnitude else magnitude
    if Word.fitsInt n then some (.int n) else none
  | fraction, exponent => do
    let fraction ← fraction.elim (some []) digits?
    let exponent ← exponent.elim (some 0) exponent?
    return .float (Text.Numeral.toFloat ⟨negative, whole, fraction, exponent⟩)

def based? (base : Nat) (s : List Char) : Option Setting := do
  let values ← (← digitsOf? base s).mapM Text.Hex.value?
  let n := values.foldl (fun n d => base * n + d) 0
  if Word.fitsInt n then some (.int n) else none

/-- A number; one of another base than ten has no sign. -/
def number? : List Char → Option Setting
  | '0' :: 'x' :: digits => based? 16 digits
  | '0' :: 'o' :: digits => based? 8 digits
  | '0' :: 'b' :: digits => based? 2 digits
  | s => signed? s
where signed? (s : List Char) : Option Setting :=
  let (negative, rest) := Text.Numeral.splitSign s
  match String.ofList rest with
  | "inf" => some (.float (if negative then -Binary64.infinity else Binary64.infinity))
  | "nan" => some (.float Binary64.nan)
  | _ => unsigned? negative rest

def hexChar? (digits : List Char) : Option Char :=
  ((Text.Hex.number? digits).filter fun n => n.isValidChar).map Char.ofNat

def quoted? : List Char → Option (List Char × List Char)
  | [] => none
  | '"' :: rest => some ([], rest)
  | '\\' :: 'u' :: a :: b :: c :: d :: rest => do
    let e ← hexChar? [a, b, c, d]
    let (cs, tail) ← quoted? rest
    return (e :: cs, tail)
  | '\\' :: 'U' :: a :: b :: c :: d :: e :: f :: g :: h :: rest => do
    let i ← hexChar? [a, b, c, d, e, f, g, h]
    let (cs, tail) ← quoted? rest
    return (i :: cs, tail)
  | '\\' :: mark :: rest => do
    let c ← match mark with
      | '"' => some '"'
      | '\\' => some '\\'
      | 'b' => some (Char.ofNat 0x08)
      | 'f' => some (Char.ofNat 0x0C)
      | 'n' => some '\n'
      | 'r' => some '\r'
      | 't' => some '\t'
      | _ => none
    let (cs, tail) ← quoted? rest
    return (c :: cs, tail)
  | c :: rest =>
    if c = '\\' || isControl c then none
    else do
      let (cs, tail) ← quoted? rest
      return (c :: cs, tail)

def isBareChar (c : Char) : Bool :=
  c.isAlphanum || c = '_' || c = '+' || c = '-' || c = '.'

def value? (s : List Char) : Option (Setting × List Char) :=
  match s with
  | '"' :: rest => (quoted? rest).map fun (cs, tail) => (.text (String.ofList cs), tail)
  | s =>
    let word := s.takeWhile isBareChar
    let setting? : Option Setting := match String.ofList word with
      | "true" => some (.bool true)
      | "false" => some (.bool false)
      | _ => number? word
    setting?.map fun setting => (setting, s.dropWhile isBareChar)

def line? (s : List Char) : Option Line :=
  if isEnd s then some .blank
  else match s.dropWhile isSpace with
    | '[' :: rest => do
      let (name, tail) ← name? rest
      match tail with
      | ']' :: tail => if isEnd tail then some (.header name) else none
      | _ => none
    | s => do
      let (name, tail) ← name? s
      match tail with
      | '=' :: tail => do
        let (setting, tail) ← value? (tail.dropWhile isSpace)
        if isEnd tail then some (.entry name setting) else none
      | _ => none

structure Progress where
  entries : Entries
  current : Option String

def add? (name : String) (s : Setting) (entries : Entries) : Option Entries :=
  if (Table.lookup name entries).isSome then none else some (entries ++ [(name, s)])

namespace Progress

def step? (p : Progress) : Line → Option Progress
  | .blank => some p
  | .header name => (add? name (.section []) p.entries).map fun entries => ⟨entries, some name⟩
  | .entry name s =>
    match p.current with
    | none => (add? name s p.entries).map fun entries => ⟨entries, none⟩
    | some sectionName =>
      let inside := Setting.entriesOf (Table.lookup sectionName p.entries)
      (add? name s inside).map fun inside =>
        ⟨Table.place sectionName (.section inside) p.entries, some sectionName⟩

end Progress

/-- The lines of a text; a carriage return in front of a line end belongs to it. -/
def lines : List Char → List (List Char)
  | [] => [[]]
  | '\r' :: '\n' :: rest => [] :: lines rest
  | '\n' :: rest => [] :: lines rest
  | c :: rest =>
    match lines rest with
    | first :: others => (c :: first) :: others
    | [] => [[c]]

def byteOrderMark : Char := Char.ofNat 0xFEFF

/-- Sections, names and plain values; of the other values of TOML there are none here. A reader of
more of it may take the place of this one wherever files are read. -/
def read? (s : String) : Option Entries := do
  let text := if s.toList.head? = some byteOrderMark then s.toList.drop 1 else s.toList
  let written ← (lines text).mapM line?
  let progress ← written.foldlM Progress.step? ⟨[], none⟩
  return progress.entries

end Segmentation.Configuration.Toml
