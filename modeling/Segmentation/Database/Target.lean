import Segmentation.Database.Location
import Segmentation.Text.Ascii
import Segmentation.Text.Numeral
import Segmentation.Text.Percent

namespace Segmentation.Database

structure Target where
  socket : Option String
  host : String
  number : Nat
  encrypted : Bool
  deriving DecidableEq, Repr

namespace Target

def builtIn : Target where
  socket := none
  host := "localhost"
  number := 5432
  encrypted := false

def atHost (t : Target) (host : String) : Target :=
  if host.toList.head? = some '/' then { t with socket := some host } else { t with host := host }

def encryption? (mode : String) : Option Bool :=
  match Text.lowerAscii mode with
  | "disable" | "allow" | "prefer" => some false
  | "require" | "verify-ca" | "verify-full" => some true
  | _ => none

def withParameter? (t : Target) (name value : String) : Option Target :=
  match name with
  | "sslmode" | "ssl-mode" => (encryption? value).map fun e => { t with encrypted := e }
  | "statement-cache-capacity" => ((Text.readNat? value).filter (Word.fits 64)).map fun _ => t
  | "host" => some (t.atHost value)
  | "hostaddr" => if Internet.isAddress value.toList then some { t with host := value } else none
  | "port" =>
    ((Text.readNat? value).filter (Word.fits 16)).map fun n => { t with number := n }
  | _ => some t

def parameters (query : List Char) : List (String × String) :=
  ((Text.splitAll '&' query).filter fun part => !part.isEmpty).map fun part =>
    let (name, value) := (Text.splitFirst ['='] part).getD (part, [])
    (Text.Percent.decodeForm name, Text.Percent.decodeForm value)

def ofAuthority? (a : Authority) : Option Target := do
  let t := { builtIn with number := a.number.getD builtIn.number }
  let _ ← Text.Percent.decodeText? a.user
  let _ ← Text.Percent.decodeText? a.password
  if a.host.isEmpty then return t
  else if (Text.Percent.bytes a.host).head? = some 0x2F then
    return t.atHost (← Text.Percent.decodeText? a.host)
  else return t.atHost (String.ofList a.host)

/-- The target of an address; none where it is not an address or a part of it cannot be read. -/
def ofAddress? (address : String) : Option Target := do
  let location ← Location.ofChars? (Location.essence address.toList)
  let t ← ofAuthority? location.authority
  let _ ← Text.Percent.decodeText? location.path
  (parameters location.query).foldlM (fun t (name, value) => t.withParameter? name value) t

end Target

end Segmentation.Database
