import Segmentation.Configuration.Setting
import Segmentation.Text.Ascii
import Segmentation.Text.Numeral
import Segmentation.Text.Split
import Segmentation.Word

namespace Segmentation.Configuration

inductive Fault where
  | malformedFile (name : String)
  | notASection (name : String)
  | unsuitable (path : List String)
  deriving DecidableEq, Repr

/-- The files of the directory and the variables, by name. -/
structure Surroundings where
  files : List (String × String)
  environment : List (String × String)
  deriving DecidableEq, Repr

namespace Surroundings

def valueOf? (s : Surroundings) (name : String) : Option String :=
  Table.lookup name s.environment

def ending : String := ".toml"

/-- The text of the file with a name. A name that is nothing but the ending is not looked into, and
for a file that is not there one stands in whose name has the ending once more. -/
def text? (s : Surroundings) (name : String) : Option String :=
  match Table.lookup name s.files with
  | some text => if name = ending then none else some text
  | none => Table.lookup (name ++ ending) s.files

def file (s : Surroundings) (read? : Reader) (name : String) : Except Fault Entries :=
  match s.text? name with
  | none => .ok []
  | some text =>
    match read? text with
    | some entries => .ok entries
    | none => .error (.malformedFile name)

end Surroundings

namespace Variable

def mark : List Char := "crm_".toList

/-- A character in lower case. Beyond ASCII only the Kelvin sign becomes a letter that names of
settings have. -/
def lowerChar (c : Char) : Char :=
  if c.toNat = 0x212A then 'k' else c.toLower

def isNameChar (c : Char) : Bool :=
  c.isAlphanum || c = '-'

/-- The names between the points of a key; a key with other characters is one name. -/
def levels (key : List Char) : List (List Char) :=
  let parts := Text.splitAll '.' key
  if parts.all fun part => part.all isNameChar then parts else [key]

def path? (name : String) : Option (List String) :=
  let lower := name.toList.map lowerChar
  if mark.isPrefixOf lower then
    let key := (lower.drop mark.length).map fun c => if c = '_' then '.' else c
    some ((levels key).map String.ofList)
  else none

def setting (value : String) : Setting :=
  match Text.lowerAscii value with
  | "true" => .bool true
  | "false" => .bool false
  | _ =>
    match (Text.readInt? value).filter Word.fitsInt with
    | some n => .int n
    | none =>
      match Text.readFloat? value with
      | some x => .float x
      | none => .text value

def entries (v : String × String) : Entries :=
  match path? v.1 with
  | none => []
  | some path => Setting.entriesOf (some (Setting.ofPath (setting v.2) path))

end Variable

def Surroundings.ofVariables (s : Surroundings) : Entries :=
  s.environment.foldl (fun lower v => Setting.overlay lower (Variable.entries v)) []

end Segmentation.Configuration
