import Segmentation.Database.Internet
import Segmentation.Decimal
import Segmentation.Text.Split
import Segmentation.Word

namespace Segmentation.Database

structure Authority where
  user : List Char
  password : List Char
  host : List Char
  number : Option Nat
  deriving DecidableEq, Repr

namespace Authority

def nobody : Authority :=
  ⟨[], [], [], none⟩

def isForbidden (c : Char) : Bool :=
  c.toNat = 0 || " <>[]\\^|".toList.contains c

/-- What may follow the colon behind a host: nothing, or a number of sixteen bits. -/
def number? (digits : List Char) : Option (Option Nat) :=
  if digits.isEmpty then some none
  else if digits.all Char.isDigit && Word.fits 16 (Decimal.ofDigits digits) then
    some (some (Decimal.ofDigits digits))
  else none

/-- A host, and the number behind it. A numeric address with colons stands in brackets; behind a
name that is empty there is no colon. -/
def place? (s : List Char) : Option (List Char × Option Nat) :=
  match s with
  | '[' :: inside =>
    match Text.splitFirst [']'] inside with
    | some (host, rest) =>
      if !Internet.isEightGroups host then none
      else match rest with
        | [] => some (host, none)
        | ':' :: digits => (number? digits).map (host, ·)
        | _ => none
    | none => none
  | s =>
    match Text.splitFirst [':'] s with
    | none => if s.any isForbidden then none else some (s, none)
    | some (name, digits) =>
      if name.isEmpty || name.any isForbidden then none else (number? digits).map (name, ·)

def credentials (s : List Char) : List Char × List Char :=
  (Text.splitFirst [':'] s).getD (s, [])

/-- The authority that a text writes, behind which the address ends or goes on. Credentials that say
something need a host behind them, and so do empty ones where the address goes on. -/
def ofChars? (s : List Char) (ends : Bool) : Option Authority :=
  match Text.splitLast '@' s with
  | none => (place? s).map fun (host, number) => ⟨[], [], host, number⟩
  | some (before, after) =>
    let (user, password) := credentials before
    let needsHost := if before.isEmpty then !ends else before != [':']
    if after.isEmpty && needsHost then none
    else (place? after).map fun (host, number) => ⟨user, password, host, number⟩

end Authority

structure Location where
  authority : Authority
  path : List Char
  query : List Char
  deriving DecidableEq, Repr

namespace Location

def isSchemeChar (c : Char) : Bool :=
  c.isAlphanum || c = '+' || c = '-' || c = '.'

def afterScheme? (s : List Char) : Option (List Char) :=
  if s.head?.any Char.isAlpha then
    match s.dropWhile isSchemeChar with
    | ':' :: rest => some rest
    | _ => none
  else none

def isAuthorityChar (c : Char) : Bool :=
  c != '/' && c != '?' && c != '#'

def withRest (authority : Authority) (rest : List Char) : Location :=
  let rest := rest.takeWhile (· != '#')
  let (path, query) := (Text.splitFirst ['?'] rest).getD (rest, [])
  ⟨authority, path, query⟩

def ofChars? (s : List Char) : Option Location :=
  match afterScheme? s with
  | none => none
  | some ('/' :: '/' :: rest) =>
    let after := rest.dropWhile isAuthorityChar
    (Authority.ofChars? (rest.takeWhile isAuthorityChar) after.isEmpty).map fun authority =>
      withRest authority after
  | some rest => some (withRest .nobody rest)

def isDropped (c : Char) : Bool :=
  c.toNat ≤ 0x20

/-- The characters of an address that count. Tabulators and line ends do not, wherever they are. -/
def essence (s : List Char) : List Char :=
  let inner := ((s.dropWhile isDropped).reverse.dropWhile isDropped).reverse
  inner.filter fun c => c != '\t' && c != '\n' && c != '\r'

end Location

end Segmentation.Database
