import Segmentation.Http.Answer
import Segmentation.Http.Payload
import Segmentation.Http.Route
import Segmentation.Text.Percent

namespace Segmentation.Http

open Service (Action Draft Limits Script)

inductive Body where
  | empty
  | json (value : Json)
  | text (s : String)
  deriving BEq, Repr

structure Response where
  status : Nat
  body : Body
  deriving BEq, Repr

namespace Response

def ok (value : Json) : Response := ⟨200, .json value⟩

def created (value : Json) : Response := ⟨201, .json value⟩

def ofFailure (f : Failure) : Response := ⟨f.status, .json f.toJson⟩

def ofFault (f : Payload.Fault) : Response := ⟨f.status, .text f.notice⟩

def badPath : Response := ⟨400, .text "The path is not valid UTF-8"⟩

def notFound : Response := ⟨404, .empty⟩

def methodNotAllowed : Response := ⟨405, .empty⟩

end Response

inductive RequestId where
  | given (id : String)
  | fresh (id : Uuid)
  deriving DecidableEq, Repr

namespace RequestId

def text : RequestId → String
  | given id => id
  | fresh id => id.write

def ofRequest (r : Request) : Script RequestId :=
  match r.requestId? with
  | some id => return given id
  | none => return fresh (← Script.ask .freshId)

end RequestId

structure Exchange where
  requestId : RequestId
  response : Response
  deriving BEq, Repr

namespace Server

def reply {α : Type} (action : Action α) (respond : α → Response) : Script Response := do
  match ← action.run with
  | .ok a => return respond a
  | .error f => return .ofFailure f

def reject (f : Failure) : Script Response :=
  return .ofFailure f

def asUser (r : Request) (serve : String → Script Response) : Script Response :=
  match r.user? with
  | some user => serve user
  | none => reject (.unauthorized "missing user identity")

/-- A segment that a path names; what is no identifier names a segment that is not there. -/
def withSegment (raw : String) (serve : Uuid → Script Response) : Script Response :=
  match Text.Percent.decodeText? raw.toList with
  | none => return .badPath
  | some text =>
    match Uuid.read? text with
    | some id => serve id
    | none => reject (.segmentNotFound text)

def withPayload {α : Type} (payload : Except Payload.Fault α) (serve : α → Script Response) :
    Script Response :=
  match payload with
  | .ok a => serve a
  | .error f => return .ofFault f

def maxNameLength : Nat := 100

def maxDescriptionLength : Nat := 500

/-- A message for each part of a draft that is too long. -/
def lengthProblems (d : Draft) : List String :=
  (if maxNameLength < d.name.length then ["name: 分群名称不能超过100个字符"] else []) ++
    (if d.description.any fun text => maxDescriptionLength < text.length then
      ["description: 分群描述不能超过500个字符"] else [])

/-- Saves a draft that is not too long anywhere. What is too long is told in no certain order. -/
def create (user : String) (d : Draft) : Script Response :=
  match lengthProblems d with
  | [] => reply (Service.save user d) fun s => .created (Answer.created (Answer.newSegment s))
  | problems => do
    let nameFirst ← Script.ask .toss
    reject (.validation ("\n".intercalate (if nameFirst then problems else problems.reverse)))

def ready : Script Response := do
  let database ← Script.ask .probe
  let status := if Answer.isReady database then 200 else 503
  return ⟨status, .json (Answer.readiness database)⟩

/-- The response of a route; none where it cannot be asked to do that. -/
def serve (limits : Limits) (r : Request) : Route → Verb → Option (Script Response)
  | .health, .get => some (return .ok Answer.alive)
  | .ready, .get => some ready
  | .segments, .get => some <| asUser r fun user =>
    reply (Service.list user) fun segments =>
      .ok (Answer.done (.arr (segments.map Answer.summary)))
  | .segments, .post => some <| asUser r fun user =>
    withPayload (Payload.readDraft r) (create user)
  | .preview, .post => some <| asUser r fun user =>
    withPayload (Payload.readRules r) fun rules =>
      reply (Service.preview limits user rules) fun s => .ok (Answer.done (Answer.preview s))
  | .refreshAll, .post => some <| asUser r fun user =>
    reply (Service.refreshAll user) fun t => .ok (Answer.done (Answer.tally t))
  | .segment raw, .get => some <| asUser r fun user => withSegment raw fun id =>
    reply (Service.get user id) fun s => .ok (Answer.done (Answer.detail s))
  | .refresh raw, .post => some <| asUser r fun user => withSegment raw fun id =>
    reply (Service.refresh user id) fun s => .ok (Answer.done (Answer.detail s))
  | .audience raw, .get => some <| asUser r fun user => withSegment raw fun id =>
    reply (Service.audience limits user id) fun s =>
      .ok (Answer.done (Answer.audience id s))
  | _, _ => none

def respond (limits : Limits) (r : Request) (route : Option Route) : Script Response :=
  match route with
  | none => return .notFound
  | some route =>
    ((Verb.ofMethod? r.method).bind (serve limits r route)).getD (return .methodNotAllowed)

/-- Answers a request and measures it. A request for the head of an answer gets no body. -/
def handle (limits : Limits) (r : Request) : Script Exchange := do
  let requestId ← RequestId.ofRequest r
  let route := Route.ofPath? r.path
  let response ← respond limits r route
  Script.ask (.record (.request r.method (Route.label route) response.status))
  let body := if r.method = "HEAD" then .empty else response.body
  return ⟨requestId, { response with body }⟩

end Server

end Segmentation.Http
