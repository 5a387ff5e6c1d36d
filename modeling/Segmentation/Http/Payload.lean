import Segmentation.Http.MediaType
import Segmentation.Http.Request
import Segmentation.Json.Reader
import Segmentation.Service

namespace Segmentation.Http.Payload

open Json (Token)

inductive Fault where
  | mediaType
  | tooLong
  | malformed
  | mistyped
  deriving DecidableEq, Repr

namespace Fault

def status : Fault → Nat
  | mediaType => 415
  | tooLong => 413
  | malformed => 400
  | mistyped => 422

def notice : Fault → String
  | mediaType => "Expected a JSON content type"
  | tooLong => "The request body is too long"
  | malformed => "The request body is not valid JSON"
  | mistyped => "The request body does not have the expected fields"

end Fault

/-- Something read from the front of `ts`, and the tokens left, which are fewer. -/
abbrev Taken (α : Type) (ts : List Token) :=
  { r : α × List Token // r.2.length < ts.length }

/-- The fault of tokens that do not begin as wanted: if a value begins there at all, it is of the
wrong type. -/
def mismatch : List Token → Fault
  | .null :: _ | .bool _ :: _ | .number (some _) :: _ | .text (some _) :: _ => .mistyped
  | .openArray :: _ | .openObject :: _ => .mistyped
  | _ => .malformed

def takeText : (ts : List Token) → Except Fault (Taken String ts)
  | .text (some s) :: rest => .ok ⟨(s, rest), by simp⟩
  | ts => .error (mismatch ts)

def takeOptionalText : (ts : List Token) → Except Fault (Taken (Option String) ts)
  | .null :: rest => .ok ⟨(none, rest), by simp⟩
  | .text (some s) :: rest => .ok ⟨(some s, rest), by simp⟩
  | ts => .error (mismatch ts)

def valueDepth : Nat := Json.maxDepth - 1

def takeValue (ts : List Token) : Except Fault (Taken Json ts) :=
  match h : Json.takeValue valueDepth ts with
  | some r => .ok ⟨r, Json.length_takeValue h⟩
  | none => .error .malformed

/-- A number or text that has no value stands in for one that has. -/
def outline : Token → Token
  | .number none => .number (some .null)
  | .text none => .text (some "")
  | token => token

def skipValue (ts : List Token) : Except Fault (Taken Unit ts) :=
  match h : Json.takeValue ts.length (ts.map outline) with
  | some (_, rest) =>
    .ok ⟨((), ts.drop (ts.length - rest.length)), by
      have := Json.length_takeValue h
      simp only [List.length_map] at this
      simp only [List.length_drop]
      omega⟩
  | none => .error .malformed

structure Field (σ : Type) where
  name : String
  isGiven : σ → Bool
  mayEndArray : Bool
  take : σ → (ts : List Token) → Except Fault (Taken σ ts)

section Reading

variable {σ : Type}

def member (fields : List (Field σ)) (s : σ) (key : String) (ts : List Token) :
    Except Fault (Taken σ ts) :=
  let field? := fields.find? fun f => f.name == key
  if field?.any fun f => f.isGiven s then .error .mistyped
  else match ts with
    | .colon :: rest =>
      match field? with
      | some f => do
        let ⟨(s, tail), h⟩ ← f.take s rest
        return ⟨(s, tail), by simp only [List.length_cons] at h ⊢; omega⟩
      | none => do
        let ⟨(_, tail), h⟩ ← skipValue rest
        return ⟨(s, tail), by simp only [List.length_cons] at h ⊢; omega⟩
    | _ => .error .malformed

def members (fields : List (Field σ)) (s : σ) (ts : List Token) : Except Fault (σ × List Token) :=
  match ts with
  | .closeObject :: rest => .ok (s, rest)
  | .comma :: .text (some key) :: rest =>
    match member fields s key rest with
    | .ok ⟨(s, tail), _⟩ => members fields s tail
    | .error f => .error f
  | _ => .error .malformed
termination_by ts.length
decreasing_by simp_all only [List.length_cons]; omega

def object (fields : List (Field σ)) (s : σ) : List Token → Except Fault (σ × List Token)
  | .closeObject :: rest => .ok (s, rest)
  | .text (some key) :: rest => do
    let ⟨(s, tail), _⟩ ← member fields s key rest
    members fields s tail
  | _ => .error .malformed

def elements (s : σ) : List (Field σ) → List Token → Except Fault (σ × List Token)
  | fields, .closeArray :: rest =>
    if fields.all Field.mayEndArray then .ok (s, rest) else .error .mistyped
  | f :: fields, .comma :: rest => do
    let ⟨(s, tail), _⟩ ← f.take s rest
    elements s fields tail
  | _, _ => .error .malformed

def array (s : σ) : List (Field σ) → List Token → Except Fault (σ × List Token)
  | fields, .closeArray :: rest =>
    if fields.all Field.mayEndArray then .ok (s, rest) else .error .mistyped
  | f :: fields, ts => do
    let ⟨(s, tail), _⟩ ← f.take s ts
    elements s fields tail
  | [], _ => .error .malformed

def readTokens (fields : List (Field σ)) (s : σ) (ts : List Token) : Except Fault σ := do
  let (s, rest) ← match ts with
    | .openObject :: rest => object fields s rest
    | .openArray :: rest => array s fields rest
    | ts => .error (mismatch ts)
  if rest.isEmpty then return s else .error .malformed

def maxLength : Nat := 2 * 1024 * 1024

def read (fields : List (Field σ)) (s : σ) (r : Request) : Except Fault σ :=
  if !((r.header? "content-type").bind MediaType.read?).any MediaType.isJson then
    .error .mediaType
  else if maxLength < r.body.utf8ByteSize then .error .tooLong
  else readTokens fields s (Json.tokens r.body)

end Reading

def readRules (r : Request) : Except Fault Json := do
  let rules : Field (Option Json) :=
    { name := "rules"
      isGiven := Option.isSome
      mayEndArray := true
      take := fun _ ts => do
        let ⟨(v, tail), h⟩ ← takeValue ts
        return ⟨(some v, tail), h⟩ }
  return (← read [rules] none r).getD .null

structure Given where
  name : Option String
  description : Option (Option String)
  rules : Option Json

def draftFields : List (Field Given) :=
  [ { name := "name"
      isGiven := fun g => g.name.isSome
      mayEndArray := true
      take := fun g ts => do
        let ⟨(v, tail), h⟩ ← takeText ts
        return ⟨({ g with name := some v }, tail), h⟩ },
    { name := "description"
      isGiven := fun g => g.description.isSome
      mayEndArray := false
      take := fun g ts => do
        let ⟨(v, tail), h⟩ ← takeOptionalText ts
        return ⟨({ g with description := some v }, tail), h⟩ },
    { name := "rules"
      isGiven := fun g => g.rules.isSome
      mayEndArray := true
      take := fun g ts => do
        let ⟨(v, tail), h⟩ ← takeValue ts
        return ⟨({ g with rules := some v }, tail), h⟩ } ]

/-- The draft of a segment. A name that is left out is empty, and rules are null. -/
def readDraft (r : Request) : Except Fault Service.Draft := do
  let given ← read draftFields ⟨none, none, none⟩ r
  return ⟨given.name.getD "", given.description.getD none, given.rules.getD .null⟩

end Segmentation.Http.Payload
