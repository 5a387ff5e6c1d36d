import Segmentation.Text.Ascii
import Segmentation.Text.Blank
import Segmentation.Text.Split

namespace Segmentation.Http

structure Header where
  name : String
  value : String
  deriving DecidableEq, Repr

structure Request where
  method : String
  target : String
  headers : List Header
  body : String
  deriving DecidableEq, Repr

namespace Request

def beforeQuery (s : List Char) : List Char :=
  s.takeWhile fun c => c != '?' && c != '#'

/-- The path of the target. Behind a host it is `/` where none is written. -/
def path (r : Request) : String :=
  let target := r.target.toList
  if target.head? = some '/' then String.ofList (beforeQuery target)
  else match Text.splitFirst "://".toList target with
    | none => r.target
    | some (_, rest) =>
      let path := (beforeQuery rest).dropWhile (· != '/')
      if path.isEmpty then "/" else String.ofList path

def isHeaderText (c : Char) : Bool :=
  c = '\t' || (0x20 ≤ c.toNat && c.toNat ≤ 0x7E)

/-- The value of the first header with a name, provided that it is text. -/
def header? (r : Request) (name : String) : Option String :=
  ((r.headers.find? fun h => Text.sameIgnoringCase h.name name).map (·.value)).filter
    fun value => value.toList.all isHeaderText

/-- The account on whose behalf the request is made, as the gateway in front of the service put
it into a header. -/
def user? (r : Request) : Option String :=
  ((r.header? "x-user-id").map Text.trim).filter fun user => !user.isEmpty

def requestId? (r : Request) : Option String :=
  (r.header? "x-request-id").filter fun id => !id.isEmpty

end Request

end Segmentation.Http
