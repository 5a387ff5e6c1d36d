import Segmentation.Http.Server
import Segmentation.Proofs.Service.Operations

namespace Segmentation.Http

open Service (Action Limits Script World)

namespace Server

section Scope

variable {α : Type} {user : Option String} {w : World}

theorem stays_reply {action : Action α} {respond : α → Response}
    (h : action.run.Stays user w) : (reply action respond).Stays user w := by
  apply h.bind
  cases (action.run.run w).1 with
  | ok a => exact .done _ _
  | error f => exact .done _ _

theorem stays_withSegment {raw : String} {serve : Uuid → Script Response}
    (h : ∀ id, (serve id).Stays user w) : (withSegment raw serve).Stays user w := by
  cases htext : Text.Percent.decodeText? raw.toList with
  | none =>
    simp only [withSegment, htext]
    exact .done _ _
  | some text =>
    cases hid : Uuid.read? text with
    | none =>
      simp only [withSegment, htext, hid]
      exact .done _ _
    | some id =>
      simp only [withSegment, htext, hid]
      exact h id

theorem stays_withPayload {payload : Except Payload.Fault α} {serve : α → Script Response}
    (h : ∀ a, (serve a).Stays user w) : (withPayload payload serve).Stays user w := by
  cases payload with
  | ok a => exact h a
  | error f => exact .done _ _

theorem stays_asUser {r : Request} {serve : String → Script Response}
    (h : ∀ user, (serve user).Stays (some user) w) : (asUser r serve).Stays r.user? w := by
  rw [asUser]
  cases r.user? with
  | none => exact .done _ _
  | some user => exact h user

theorem stays_create {draft : Service.Draft} {owner : String}
    (fresh : ∀ n, w.segments.byId.get? (w.ids n) = none) :
    (create owner draft).Stays (some owner) w := by
  rw [create]
  cases lengthProblems draft with
  | nil => exact stays_reply (Service.stays_save owner draft fresh)
  | cons problem rest => exact .call trivial (.done _ _)

theorem stays_serve {limits : Limits} {r : Request} {route : Route} {verb : Verb}
    {script : Script Response} (fresh : ∀ n, w.segments.byId.get? (w.ids n) = none)
    (h : serve limits r route verb = some script) : script.Stays r.user? w := by
  cases route <;> cases verb <;> cases h
  case health.get => exact .done _ _
  case ready.get => exact .call trivial (.done _ _)
  case segments.get =>
    refine stays_asUser fun user => stays_reply ?_
    exact (Service.Action.reads_list user).stays w
  case segments.post =>
    exact stays_asUser fun user => stays_withPayload fun draft => stays_create fresh
  case preview.post =>
    refine stays_asUser fun user => stays_withPayload fun rules => stays_reply ?_
    exact (Service.reads_select .preview rules limits.previewSample user).stays w
  case refreshAll.post =>
    exact stays_asUser fun user => stays_reply (Service.stays_refreshAll user)
  case segment.get =>
    refine stays_asUser fun user => stays_withSegment fun id => stays_reply ?_
    exact (Service.reads_get user id).stays w
  case refresh.post =>
    exact stays_asUser fun user => stays_withSegment fun id =>
      stays_reply (Service.stays_refresh user id)
  case audience.get =>
    refine stays_asUser fun user => stays_withSegment fun id => stays_reply ?_
    exact (Service.reads_audience limits user id).stays w

theorem stays_respond {limits : Limits} {r : Request} {route : Option Route}
    (fresh : ∀ n, w.segments.byId.get? (w.ids n) = none) :
    (respond limits r route).Stays r.user? w := by
  cases route with
  | none => exact .done _ _
  | some route =>
    rw [respond]
    cases hserve : (Verb.ofMethod? r.method).bind (serve limits r route) with
    | none => exact .done _ _
    | some script =>
      obtain ⟨verb, -, hscript⟩ := Option.bind_eq_some_iff.1 hserve
      exact stays_serve fresh hscript

theorem reads_ofRequest (r : Request) : (RequestId.ofRequest r).Reads user := by
  rw [RequestId.ofRequest]
  cases r.requestId? with
  | none => exact .call trivial fun _ => .done _
  | some id => exact .done _

theorem stays_handle {limits : Limits} {r : Request}
    (fresh : ∀ n, w.segments.byId.get? (w.ids n) = none) :
    (handle limits r).Stays r.user? w := by
  apply (reads_ofRequest r).bind_stays
  intro requestId w' hsegments hids
  refine Script.Stays.bind (stays_respond ?_) (.call trivial (.done _ _))
  rw [hsegments, hids]
  exact fresh

end Scope

section Unknown

variable {limits : Limits} {r : Request} {route : Route} {verb : Verb}

def unauthorized : Failure := .unauthorized "missing user identity"

theorem serve_eq_reject (unknown : r.user? = none) (hhealth : route ≠ .health)
    (hready : route ≠ .ready) (h : (serve limits r route verb).isSome) (body : String) :
    serve limits { r with body } route verb = some (reject unauthorized) := by
  have huser : Request.user? { r with body } = none := unknown
  cases route <;> cases verb
  case health.get => exact absurd rfl hhealth
  case ready.get => exact absurd rfl hready
  all_goals first
    | cases h; done
    | simp only [serve, asUser, huser, unauthorized]

end Unknown

end Server

/-- A request as it reaches the service: when, with which identifiers to draw from, and how what is
left to chance falls out. -/
structure Visit where
  request : Request
  clock : Instant
  ids : Nat → Uuid
  coins : Nat → Bool

namespace Visit

def enter (visit : Visit) (w : World) : World :=
  { w with clock := visit.clock, ids := visit.ids, coins := visit.coins, drawn := 0 }

def answer (limits : Limits) (visit : Visit) (w : World) : Exchange × World :=
  (Server.handle limits visit.request).run (visit.enter w)

/-- No segment has an identifier that the visit may draw. -/
def Fresh (visit : Visit) (w : World) : Prop :=
  ∀ n, w.segments.byId.get? (visit.ids n) = none

/-- No identifier can be drawn in both visits. -/
def Apart (a b : Visit) : Prop :=
  ∀ m n, a.ids m ≠ b.ids n

def after (limits : Limits) : List Visit → World → World
  | [], w => w
  | visit :: rest, w => after limits rest (visit.answer limits w).2

def seen (limits : Limits) (user : String) : List Visit → World → List Exchange
  | [], _ => []
  | visit :: rest, w =>
    let later := seen limits user rest (visit.answer limits w).2
    if visit.request.user? = some user then (visit.answer limits w).1 :: later else later

variable (limits : Limits) {user : String} {visit : Visit} {v w : World}

theorem stays_enter (fresh : visit.Fresh w) :
    (Server.handle limits visit.request).Stays visit.request.user? (visit.enter w) :=
  Server.stays_handle fresh

theorem indexed_answer (fresh : visit.Fresh w) (hw : w.segments.Indexed) :
    (visit.answer limits w).2.segments.Indexed :=
  Script.indexed_run (stays_enter limits fresh) hw

theorem database_answer : (visit.answer limits w).2.database = w.database :=
  Script.database_run

theorem holdings_answer (fresh : visit.Fresh w) (hne : visit.request.user? ≠ some user) :
    (visit.answer limits w).2.holdings user = w.holdings user :=
  Script.holdings_run (stays_enter limits fresh) hne

theorem Fresh.answer {next : Visit} (h : next.Fresh w) (fresh : visit.Fresh w)
    (apart : visit.Apart next) : next.Fresh (visit.answer limits w).2 := by
  intro n
  exact Script.unused_run (stays_enter limits fresh) (h n) fun m => apart m n

theorem answer_agree (hv : v.segments.Indexed) (hw : w.segments.Indexed)
    (hheld : v.holdings user = w.holdings user) (hdatabase : v.database = w.database)
    (freshv : visit.Fresh v) (freshw : visit.Fresh w)
    (huser : visit.request.user? = some user) :
    (visit.answer limits v).1 = (visit.answer limits w).1 ∧
      (visit.answer limits v).2.holdings user = (visit.answer limits w).2.holdings user := by
  have sv := stays_enter limits freshv
  have sw := stays_enter limits freshw
  rw [huser] at sv sw
  have agree : World.Agree user (visit.enter v) (visit.enter w) :=
    ⟨hheld, rfl, rfl, rfl, rfl, hdatabase⟩
  obtain ⟨hanswer, hagree⟩ := Script.run_agree agree hv hw sv sw
  exact ⟨hanswer, hagree.holdings⟩

theorem seen_agree {visits : List Visit} (hv : v.segments.Indexed) (hw : w.segments.Indexed)
    (hheld : v.holdings user = w.holdings user) (hdatabase : v.database = w.database)
    (apart : visits.Pairwise Apart) (freshv : ∀ visit ∈ visits, visit.Fresh v)
    (freshw : ∀ visit ∈ visits, visit.Fresh w) :
    seen limits user visits v = seen limits user visits w ∧
      (after limits visits v).holdings user = (after limits visits w).holdings user := by
  induction visits generalizing v w with
  | nil => exact ⟨rfl, hheld⟩
  | cons visit rest ih =>
    obtain ⟨hapart, hrest⟩ := List.pairwise_cons.1 apart
    have fv := freshv visit List.mem_cons_self
    have fw := freshw visit List.mem_cons_self
    have later {w : World} (fw : visit.Fresh w) (freshw : ∀ next ∈ visit :: rest, next.Fresh w) :
        ∀ next ∈ rest, next.Fresh (visit.answer limits w).2 := by
      intro next hnext
      exact (freshw next (List.mem_cons_of_mem _ hnext)).answer limits fw (hapart next hnext)
    have hdatabase' : (visit.answer limits v).2.database = (visit.answer limits w).2.database := by
      rw [database_answer, database_answer, hdatabase]
    by_cases huser : visit.request.user? = some user
    · obtain ⟨hanswer, hheld'⟩ := answer_agree limits hv hw hheld hdatabase fv fw huser
      obtain ⟨hseen, hafter⟩ := ih (indexed_answer limits fv hv) (indexed_answer limits fw hw)
        hheld' hdatabase' hrest (later fv freshv) (later fw freshw)
      refine ⟨?_, hafter⟩
      rw [seen, seen, if_pos huser, if_pos huser, hanswer, hseen]
    · have hheld' : (visit.answer limits v).2.holdings user =
          (visit.answer limits w).2.holdings user := by
        rw [holdings_answer limits fv huser, holdings_answer limits fw huser, hheld]
      obtain ⟨hseen, hafter⟩ := ih (indexed_answer limits fv hv) (indexed_answer limits fw hw)
        hheld' hdatabase' hrest (later fv freshv) (later fw freshw)
      refine ⟨?_, hafter⟩
      rw [seen, seen, if_neg huser, if_neg huser, hseen]

def requestId (visit : Visit) : RequestId :=
  match visit.request.requestId? with
  | some id => .given id
  | none => .fresh (visit.ids 0)

def withBody (visit : Visit) (body : String) : Visit :=
  { visit with request := { visit.request with body } }

theorem answer_unknown {route : Route} {verb : Verb} (unknown : visit.request.user? = none)
    (hroute : Route.ofPath? visit.request.path = some route) (hhealth : route ≠ .health)
    (hready : route ≠ .ready) (hverb : Verb.ofMethod? visit.request.method = some verb)
    (served : (Server.serve limits visit.request route verb).isSome) :
    ∃ exchange : Exchange, exchange.response.status = 401 ∧ ∀ body w,
      ((visit.withBody body).answer limits w).1 = exchange ∧
      ((visit.withBody body).answer limits w).2.customers = w.customers ∧
      ((visit.withBody body).answer limits w).2.segments = w.segments := by
  let shown := if visit.request.method = "HEAD" then Body.empty
    else .json Server.unauthorized.toJson
  refine ⟨⟨visit.requestId, ⟨401, shown⟩⟩, rfl, fun body w => ?_⟩
  have hroute' : Route.ofPath? ({ visit.request with body } : Request).path = some route := hroute
  have hid : ({ visit.request with body } : Request).requestId? = visit.request.requestId? := rfl
  have hrespond : Server.respond limits { visit.request with body } (some route) =
      Server.reject Server.unauthorized := by
    rw [Server.respond]
    change ((Verb.ofMethod? visit.request.method).bind _).getD _ = _
    rw [hverb, Option.bind_some,
      Server.serve_eq_reject unknown hhealth hready served body, Option.getD_some]
  simp only [answer, withBody, Server.handle, RequestId.ofRequest, hroute', hrespond,
    Server.reject, Script.run_bind, Script.run_pure, hid, requestId, shown]
  cases visit.request.requestId? with
  | none => exact ⟨rfl, rfl, rfl⟩
  | some id => exact ⟨rfl, rfl, rfl⟩

end Visit

/-- Two worlds in which a user's account holds the same, whatever other accounts hold, are the same
to the user. The user is answered alike in both and then holds the same in both, by one visit and
by any visits of all users, provided that time, fresh identifiers and chance are the same; what
another caller does leaves the account as it is; and who names no user is refused by every route
that is for accounts, whatever is submitted and stored. -/
theorem isolated (limits : Limits) (user : String) {v w : World} (hv : v.segments.Indexed)
    (hw : w.segments.Indexed) (hheld : v.holdings user = w.holdings user)
    (hdatabase : v.database = w.database) :
    (∀ visit : Visit, visit.Fresh v → visit.Fresh w → visit.request.user? = some user →
      (visit.answer limits v).1 = (visit.answer limits w).1 ∧
      (visit.answer limits v).2.holdings user = (visit.answer limits w).2.holdings user) ∧
    (∀ visit : Visit, visit.Fresh w → visit.request.user? ≠ some user →
      (visit.answer limits w).2.holdings user = w.holdings user) ∧
    (∀ visits : List Visit, visits.Pairwise Visit.Apart → (∀ visit ∈ visits, visit.Fresh v) →
      (∀ visit ∈ visits, visit.Fresh w) →
      Visit.seen limits user visits v = Visit.seen limits user visits w ∧
      (Visit.after limits visits v).holdings user =
        (Visit.after limits visits w).holdings user) ∧
    ∀ (visit : Visit) (route : Route) (verb : Verb), visit.request.user? = none →
      Route.ofPath? visit.request.path = some route → route ≠ .health → route ≠ .ready →
      Verb.ofMethod? visit.request.method = some verb →
      (Server.serve limits visit.request route verb).isSome →
      ∃ exchange : Exchange, exchange.response.status = 401 ∧ ∀ body w,
        ((visit.withBody body).answer limits w).1 = exchange ∧
        ((visit.withBody body).answer limits w).2.customers = w.customers ∧
        ((visit.withBody body).answer limits w).2.segments = w.segments := by
  refine ⟨?_, ?_, ?_, ?_⟩
  · intro visit freshv freshw huser
    exact Visit.answer_agree limits hv hw hheld hdatabase freshv freshw huser
  · intro visit fresh hne
    exact Visit.holdings_answer limits fresh hne
  · intro visits apart freshv freshw
    exact Visit.seen_agree limits hv hw hheld hdatabase apart freshv freshw
  · intro visit route verb unknown hroute hhealth hready hverb served
    exact Visit.answer_unknown limits unknown hroute hhealth hready hverb served

def ownersVip : Segment :=
  { id := default
    owner := "owner"
    name := "VIP"
    description := none
    rules := .null
    filter := .matchAll
    customerCount := none
    isActive := true
    createdAt := default
    updatedAt := default
    lastRun := none }

def storeOfOwner : Store.Segments where
  byId := Store.Segments.empty.place ownersVip
  names := Table.empty.insert ("owner", "VIP") ownersVip.id
  id_of_get? := Store.Segments.id_of_place

def worldWith (segments : Store.Segments) : World :=
  { customers := .empty
    segments
    clock := default
    ids := fun _ => default
    drawn := 0
    database := none
    measured := [] }

def visitBy (user method body : String) (id : Uuid) : Visit :=
  { request := ⟨method, "/api/segments",
      [⟨"x-user-id", user⟩, ⟨"content-type", "application/json"⟩], body⟩
    clock := default
    ids := fun _ => id
    coins := fun _ => false }

def visitsOfBoth : List Visit :=
  [visitBy "owner" "GET" "" { value := 1 },
    visitBy "neighbour" "POST"
      ("\x7b\"name\":\"VIP\"," ++
        "\"rules\":\x7b\"field\":\"visits\",\"operator\":\">\",\"value\":1\x7d\x7d")
      { value := 2 }]

theorem isolated_neighbour :
    storeOfOwner.Indexed ∧
    (worldWith storeOfOwner).holdings "neighbour" = (worldWith .empty).holdings "neighbour" ∧
    Visit.seen ⟨20, 100⟩ "neighbour" visitsOfBoth (worldWith storeOfOwner) =
      Visit.seen ⟨20, 100⟩ "neighbour" visitsOfBoth (worldWith .empty) := by
  have hinsert : Store.Segments.empty.insert ownersVip = .ok storeOfOwner := rfl
  have hindexed : storeOfOwner.Indexed := Store.Segments.indexed_empty.insert rfl hinsert
  have hheld : (worldWith storeOfOwner).holdings "neighbour" =
      (worldWith .empty).holdings "neighbour" := by
    have hget := Store.Segments.get?_insert_of_ne hinsert rfl
      (show ownersVip.owner ≠ "neighbour" by decide)
    rw [Service.World.holdings, Service.World.holdings]
    exact congrArg (Service.Holdings.mk _) hget
  obtain ⟨-, -, hseen, -⟩ := isolated ⟨20, 100⟩ "neighbour" (v := worldWith storeOfOwner)
    (w := worldWith .empty) hindexed Store.Segments.indexed_empty hheld rfl
  refine ⟨hindexed, hheld, (hseen visitsOfBoth ?_ ?_ ?_).1⟩
  · refine .cons ?_ (.cons (fun _ h => absurd h List.not_mem_nil) .nil)
    intro visit hvisit m n
    rw [List.mem_singleton.1 hvisit]
    have hne : (1 : Nat) ≠ 2 := by decide
    exact fun h => hne (congrArg Uuid.value h)
  · intro visit hvisit n
    rcases List.mem_cons.1 hvisit with rfl | hvisit
    · rfl
    · rw [List.mem_singleton.1 hvisit]
      rfl
  · intro visit _ n
    rfl

end Segmentation.Http
