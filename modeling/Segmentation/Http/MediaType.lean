import Segmentation.Text.Split

namespace Segmentation.Http

structure MediaType where
  type : String
  subtype : String
  suffix : Option String
  deriving DecidableEq, Repr

namespace MediaType

def isTokenChar (c : Char) : Bool :=
  c.isAlphanum || "!#$%&'*+-.^_`|~".toList.contains c

def isToken (s : List Char) : Bool :=
  !s.isEmpty && s.all isTokenChar

def isQuotable (c : Char) : Bool :=
  0x1F < c.toNat && c.toNat != 0x7F

/-- What follows a quoted value: the text after the next semicolon, with only spaces in front of
it, or nothing. -/
def afterQuoted? (s : List Char) : Option (List Char) :=
  match s.dropWhile (· = ' ') with
  | [] => some []
  | ';' :: rest => some rest
  | _ => none

/-- The text after the value of a parameter and the semicolon behind it. A quoted value has at
least one character, which may be a quote. -/
def afterValue? (s : List Char) : Option (List Char) :=
  match s with
  | '"' :: c :: rest =>
    if isQuotable c then
      match Text.splitFirst ['"'] rest with
      | some (value, rest) => if value.all isQuotable then afterQuoted? rest else none
      | none => none
    else none
  | s =>
    match s.dropWhile isTokenChar with
    | [] => some []
    | ';' :: rest => if (s.takeWhile isTokenChar).isEmpty then none else some rest
    | _ => none

def areParameters : Nat → List Char → Bool
  | 0, _ => false
  | fuel + 1, s =>
    match s.dropWhile (· = ' ') with
    | [] => true
    | s =>
      match Text.splitFirst ['='] s with
      | none => false
      | some (name, value) =>
        isToken name && (afterValue? value).any (areParameters fuel)

/-- A subtype cut at its last plus sign, unless that is its first character. -/
def ofParts (type subtype : List Char) : MediaType :=
  let lower (s : List Char) := String.ofList (s.map Char.toLower)
  match Text.splitLast '+' subtype with
  | some (c :: before, after) => ⟨lower type, lower (c :: before), some (lower after)⟩
  | _ => ⟨lower type, lower subtype, none⟩

def read? (text : String) : Option MediaType := do
  let (type, rest) ← Text.splitFirst ['/'] text.toList
  let (subtype, parameters) := (Text.splitFirst [';'] rest).getD (rest, [])
  if isToken type && isToken subtype && areParameters (text.length + 1) parameters then
    some (ofParts type subtype)
  else none

def isJson (m : MediaType) : Bool :=
  m.type == "application" && (m.subtype == "json" || m.suffix == some "json")

end MediaType

end Segmentation.Http
