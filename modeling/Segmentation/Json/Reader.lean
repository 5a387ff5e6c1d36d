import Segmentation.Json.Token

namespace Segmentation.Json

/-- Puts a member into members sorted by key, in place of an earlier one with the same key. -/
def insertMember (key : String) (value : Json) : List (String × Json) → List (String × Json)
  | [] => [(key, value)]
  | (k, v) :: rest =>
    if key = k then (key, value) :: rest
    else if key < k then (key, value) :: (k, v) :: rest
    else (k, v) :: insertMember key value rest

inductive Frame where
  | array (reversed : List Json)
  | object (members : List (String × Json)) (key : String)

inductive Expect where
  | value
  | valueOrClose
  | key
  | keyOrClose
  | colon
  | separator

structure ReaderState where
  stack : List Frame
  expect : Expect

namespace ReaderState

def start : ReaderState := ⟨[], .value⟩

inductive Outcome where
  | done (value : Json)
  | more (state : ReaderState)

/-- A finished value goes into the innermost unfinished array or object. -/
def place (value : Json) : List Frame → Outcome
  | [] => .done value
  | .array reversed :: stack => .more ⟨.array (value :: reversed) :: stack, .separator⟩
  | .object members key :: stack =>
    .more ⟨.object (insertMember key value members) key :: stack, .separator⟩

def enter (depth : Nat) (s : ReaderState) (frame : Frame) (expect : Expect) : Option Outcome :=
  if s.stack.length < depth then some (.more ⟨frame :: s.stack, expect⟩) else none

def beginValue (depth : Nat) (s : ReaderState) : Token → Option Outcome
  | .openArray => s.enter depth (.array []) .valueOrClose
  | .openObject => s.enter depth (.object [] "") .keyOrClose
  | .null => some (place .null s.stack)
  | .bool b => some (place (.bool b) s.stack)
  | .number value => value.map fun v => place v s.stack
  | .text value => value.map fun v => place (.str v) s.stack
  | _ => none

def step (depth : Nat) (s : ReaderState) (token : Token) : Option Outcome :=
  match s.expect, s.stack, token with
  | .valueOrClose, .array reversed :: stack, .closeArray =>
    some (place (.arr reversed.reverse) stack)
  | .value, _, token => s.beginValue depth token
  | .valueOrClose, _, token => s.beginValue depth token
  | .keyOrClose, .object members _ :: stack, .closeObject => some (place (.obj members) stack)
  | .keyOrClose, .object members _ :: stack, .text (some key) =>
    some (.more ⟨.object members key :: stack, .colon⟩)
  | .key, .object members _ :: stack, .text (some key) =>
    some (.more ⟨.object members key :: stack, .colon⟩)
  | .colon, stack, .colon => some (.more ⟨stack, .value⟩)
  | .separator, .array reversed :: stack, .closeArray => some (place (.arr reversed.reverse) stack)
  | .separator, .array reversed :: stack, .comma => some (.more ⟨.array reversed :: stack, .value⟩)
  | .separator, .object members _ :: stack, .closeObject => some (place (.obj members) stack)
  | .separator, .object members key :: stack, .comma =>
    some (.more ⟨.object members key :: stack, .key⟩)
  | _, _, _ => none

def run (depth : Nat) (s : ReaderState) : List Token → Option (Json × List Token)
  | [] => none
  | token :: rest =>
    match s.step depth token with
    | none => none
    | some (.done value) => some (value, rest)
    | some (.more s) => s.run depth rest

theorem length_run {depth : Nat} {s : ReaderState} {ts rest : List Token} {value : Json}
    (h : s.run depth ts = some (value, rest)) : rest.length < ts.length := by
  induction ts generalizing s with
  | nil => simp [run] at h
  | cons token ts ih =>
    simp only [run] at h
    split at h
    · simp at h
    · simp_all
    · have := ih h
      simp only [List.length_cons]
      omega

end ReaderState

/-- The value at the front of a token list, with at most `depth` arrays and objects inside one
another. -/
def takeValue (depth : Nat) (ts : List Token) : Option (Json × List Token) :=
  ReaderState.start.run depth ts

theorem length_takeValue {depth : Nat} {ts rest : List Token} {value : Json}
    (h : takeValue depth ts = some (value, rest)) : rest.length < ts.length :=
  ReaderState.length_run h

def maxDepth : Nat := 127

def read? (depth : Nat) (s : String) : Option Json :=
  match takeValue depth (tokens s) with
  | some (value, []) => some value
  | _ => none

end Segmentation.Json
