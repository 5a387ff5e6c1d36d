import Segmentation.Text.Alphanumeric
import Segmentation.Text.Ascii
import Segmentation.Text.Blank
import Segmentation.Text.Numeral
import Segmentation.Text.Split

namespace Segmentation.Log

inductive Level where
  | off
  | error
  | warn
  | info
  | debug
  | trace
  deriving DecidableEq, Repr

namespace Level

def all : List Level := [off, error, warn, info, debug, trace]

def name : Level → String
  | off => "off"
  | error => "error"
  | warn => "warn"
  | info => "info"
  | debug => "debug"
  | trace => "trace"

def rank (l : Level) : Nat :=
  all.idxOf l

def ofText? (s : String) : Option Level :=
  match Text.readNat? s with
  | some n => all[n]?
  | none => all.find? fun l => Text.sameIgnoringCase l.name s

end Level

structure Directive where
  /-- What the targets of events begin with; nothing for all events. -/
  target : Option String
  level : Level
  deriving DecidableEq, Repr

namespace Directive

def text (d : Directive) : String :=
  match d.target with
  | none => d.level.name
  | some target => target ++ "=" ++ d.level.name

def mayBegin (c : Char) : Bool :=
  Text.isAlphanumeric c || c = '-' || c = ':' || c = '_'

def ofName (s : String) : Directive :=
  match Level.ofText? s with
  | some level => ⟨none, level⟩
  | none => ⟨some s, .trace⟩

def ofPair? (target level : List Char) : Option Directive :=
  if level.isEmpty then some ⟨some (String.ofList target), .trace⟩
  else (Level.ofText? (String.ofList level)).map fun l => ⟨some (String.ofList target), l⟩

/-- Blanks at the ends are a part of a name; where there is a level there must be none. -/
def read? (s : List Char) : Option Directive :=
  match (Text.trimChars s).head? with
  | none => none
  | some c =>
    if !mayBegin c || s.contains '[' then none
    else match Text.splitFirst ['='] s with
      | none => some (ofName (String.ofList s))
      | some (target, level) =>
        if target.head?.any Text.isBlank then none else ofPair? target level

def holdsFor (d : Directive) (target : String) : Bool :=
  d.target.all fun t => t.toList.isPrefixOf target.toList

def precision (d : Directive) : Nat :=
  (d.target.map fun t => t.length + 1).getD 0

end Directive

/-- Directives, of which no two have the same target. -/
structure Filter where
  directives : List Directive
  deriving DecidableEq, Repr

namespace Filter

def insert (f : Filter) (d : Directive) : Filter :=
  ⟨f.directives.filter (fun e => e.target != d.target) ++ [d]⟩

def read? (s : String) : Option Filter := do
  let parts := (Text.splitAll ',' s.toList).filter fun part => !part.isEmpty
  return (← parts.mapM Directive.read?).foldl insert ⟨[]⟩

def ofLevel (l : Level) : Filter :=
  ⟨[⟨none, l⟩]⟩

/-- The filter of a process: the one from the environment if it is a filter, else the configured
one if it is one. -/
def choose (environment : Option String) (configured : String) : Filter :=
  ((environment.bind read?).or (read? configured)).getD (ofLevel .info)

def deciding? (f : Filter) (target : String) : Option Directive :=
  ((f.directives.filter fun d => d.holdsFor target).mergeSort
    fun d e => e.precision ≤ d.precision).head?

def allows (f : Filter) (target : String) (level : Level) : Bool :=
  (f.deciding? target).any fun d => level.rank ≤ d.level.rank

def texts (f : Filter) : List String :=
  match f.directives with
  | [] => [""]
  | directives => (directives.map Directive.text).mergeSort fun a b => a ≤ b

end Filter

end Segmentation.Log
