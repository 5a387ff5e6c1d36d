import Segmentation.Binary64
import Segmentation.Table

namespace Segmentation.Configuration

inductive Setting where
  | bool (b : Bool)
  | int (n : Int)
  | float (x : Float)
  | text (s : String)
  | array (items : List Setting)
  | section (entries : List (String × Setting))
  deriving BEq, Repr, Inhabited

abbrev Entries := List (String × Setting)

/-- A way to read the text of a file of settings; nothing where it is not well formed. -/
abbrev Reader := String → Option Entries

namespace Setting

def entriesOf : Option Setting → Entries
  | some (.section entries) => entries
  | _ => []

mutual

/-- What comes of a setting put onto what was there before. -/
def onto (lower : Option Setting) : Setting → Setting
  | .section [] => lower.getD (.section [])
  | .section (entry :: rest) => .section (overlay (entriesOf lower) (entry :: rest))
  | value => value
termination_by structural s => s

def overlay (lower : Entries) : Entries → Entries
  | [] => lower
  | (name, s) :: rest => overlay (Table.place name (onto (Table.lookup name lower) s) lower) rest
termination_by structural upper => upper

end

def atPath (path : List String) (s : Setting) : Option Setting :=
  match path, s with
  | [], s => some s
  | name :: rest, .section entries => (Table.lookup name entries).bind (atPath rest)
  | _, _ => none

def ofPath (s : Setting) : List String → Setting
  | [] => s
  | name :: rest => .section [(name, ofPath s rest)]

end Setting

end Segmentation.Configuration
