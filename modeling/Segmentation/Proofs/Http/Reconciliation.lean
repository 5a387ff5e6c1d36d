import Segmentation.Proofs.Http.Measurements

namespace Segmentation

open Metrics (Measurement Registry Series)

namespace Http

open Service (Limits Operation Script World)

def Route.templates : List String :=
  ["/health", "/ready", "/api/segments", "/api/segments/preview", "/api/segments/refresh-all",
    "/api/segments/\x7bid\x7d", "/api/segments/\x7bid\x7d/refresh",
    "/api/segments/\x7bid\x7d/audience"]

namespace Answered

theorem label_mem (a : Answered) : a.label ∈ "unmatched" :: Route.templates := by
  rw [label]
  cases Route.ofPath? a.request.path with
  | none => exact List.mem_cons_self
  | some route => cases route <;> simp [Route.label, Route.template, Route.templates]

theorem status_sent (a : Answered) : a.sent.status = a.response.status := by
  rw [sent]
  split <;> rfl

end Answered

/-- The series of an operation that are counted or observed for it. -/
def seriesOf (op : Operation) : List Series :=
  [⟨.compilations, [("operation", op.name), ("match_all", "true")]⟩,
    ⟨.compilations, [("operation", op.name), ("match_all", "false")]⟩,
    ⟨.compilationSeconds, [("operation", op.name)]⟩, ⟨.refusals, [("operation", op.name)]⟩,
    ⟨.audienceSize, [("operation", op.name)]⟩]

/-- The answers account for all that was measured. -/
structure Reconciles (answers : List Answered) (measured : List Measurement) : Prop where
  requests : measured.filterMap (·.answered?) = answers.map (·.series)
  tells : ∀ op, Tells op answers measured
  named : ∀ m ∈ measured, m.answered?.isSome ∨ ∃ op : Operation, m.operation? = some op.name

namespace Reconciles

theorem nil : Reconciles [] [] :=
  ⟨rfl, fun _ => ⟨rfl, fun _ ha => absurd ha List.not_mem_nil, rfl, rfl⟩, nofun⟩

theorem append {answers answers' : List Answered} {measured measured' : List Measurement}
    (h : Reconciles answers measured) (h' : Reconciles answers' measured') :
    Reconciles (answers ++ answers') (measured ++ measured') where
  requests := by rw [List.filterMap_append, h.requests, h'.requests, List.map_append]
  tells op := (h.tells op).append (h'.tells op)
  named m hm := (List.mem_append.1 hm).elim (h.named m) (h'.named m)

theorem of_measures {a : Answered} {measured : List Measurement} (h : a.Measures measured) :
    Reconciles [a] (measured ++ [.request a.request.method a.label a.response.status]) := by
  have unanswered : measured.filterMap (·.answered?) = [] := by
    refine List.filterMap_eq_nil_iff.2 fun m hm => ?_
    obtain ⟨op, hop⟩ := h.named m hm
    cases m with
    | request method path status => cases hop
    | _ => rfl
  constructor
  · rw [List.filterMap_append, unanswered]
    rfl
  · intro op
    -- The request itself is no work of an operation.
    have silent : Tells op [] [.request a.request.method a.label a.response.status] :=
      ⟨rfl, fun _ ha => absurd ha List.not_mem_nil, rfl, rfl⟩
    exact (h.tells op).append silent
  · intro m hm
    rcases List.mem_append.1 hm with hm | hm
    · exact .inr (h.named m hm)
    · rw [List.mem_singleton.1 hm]
      exact .inl rfl

section Collected

variable {answers : List Answered} {g : Registry}
  (h : Reconciles answers g.measurements)

include h

theorem sum_requests : ((g.series.filter fun s => s.metric = .requests).map g.counterValue).sum =
    answers.length := by
  rw [Registry.sum_counterValue_requests, h.requests, List.length_map]

theorem counterValue_requests {s : Series} (hs : s.metric = .requests) :
    g.counterValue s = answers.countP fun a => a.series = s := by
  rw [Registry.counterValue_requests hs, h.requests, List.count_eq_countP, List.countP_map]
  refine List.countP_congr fun a _ => ?_
  rw [Function.comp_apply, beq_iff_eq, decide_eq_true_eq]

theorem exists_of_requests {s : Series} (hs : s ∈ g.series) (hrequests : s.metric = .requests) :
    ∃ a ∈ answers, s = a.series := by
  have hmem : s ∈ g.measurements.filterMap (·.answered?) := by
    obtain ⟨hcounted, -⟩ := Registry.mem_series_requests.1 ⟨hs, hrequests⟩
    have hpositive := List.count_pos_iff.2 hcounted
    rw [← Registry.counterValue, Registry.counterValue_requests hrequests] at hpositive
    exact List.count_pos_iff.1 hpositive
  rw [h.requests] at hmem
  obtain ⟨a, ha, rfl⟩ := List.mem_map.1 hmem
  exact ⟨a, ha, rfl⟩

variable (op : Operation)

theorem sum_compilations :
    g.counterValue ⟨.compilations, [("operation", op.name), ("match_all", "true")]⟩ +
      g.counterValue ⟨.compilations, [("operation", op.name), ("match_all", "false")]⟩ =
    (answers.map (·.successes op)).sum := by
  have hlengths : answers.map (fun a => (a.filters op).length) = answers.map (·.successes op) :=
    List.map_congr_left (h.tells op).successes
  rw [Registry.counterValue_compilations_add, (h.tells op).compilations, List.length_map,
    List.length_flatMap, hlengths]

theorem matchAll_compilations :
    g.counterValue ⟨.compilations, [("operation", op.name), ("match_all", "true")]⟩ =
      (answers.map fun a => (a.filters op).countP (·.isMatchAll)).sum := by
  have hcounts (a : Answered) :
      (a.filters op).countP
        (fun filter => decide (Measurement.matchAllLabel filter.predicateCount = "true")) =
      (a.filters op).countP (·.isMatchAll) := by
    refine List.countP_congr fun filter hfilter => ?_
    obtain ⟨rules, -, rfl⟩ := List.mem_map.1 hfilter
    rw [decide_eq_true_eq, Measurement.matchAllLabel_eq_true_iff]
    exact Rule.Node.predicateCount_compile_eq_zero_iff _ _
  rw [Registry.counterValue_compilations, (h.tells op).compilations, List.countP_map,
    List.countP_flatMap]
  simp only [Function.comp_def, hcounts]

theorem sum_refusals : g.counterValue ⟨.refusals, [("operation", op.name)]⟩ =
    (answers.map (·.refusals op)).sum := by
  rw [Registry.counterValue_refusals, (h.tells op).refusals]

theorem observations_sizes : g.observations ⟨.audienceSize, [("operation", op.name)]⟩ =
    (answers.flatMap (·.sizes op)).map fun n : Nat => Decimal.floatOfInt n := by
  rw [Registry.observations_audienceSize, (h.tells op).sizes]

omit op in
theorem exists_of_mem_series {s : Series} (hs : s ∈ g.series) :
    s.metric ∈ [.starts, .requests, .requestSeconds] ∨ ∃ op : Operation, s ∈ seriesOf op := by
  rcases Registry.exists_of_mem_series hs with hstarts | ⟨⟨m, seconds⟩, hr, hfrom⟩
  · exact .inl (by rw [hstarts]; decide)
  · have hm : m ∈ g.measurements := List.mem_map.2 ⟨_, hr, rfl⟩
    rcases h.named m hm with hanswered | ⟨op, hop⟩
    · left
      cases m with
      | request method path status =>
        rcases hfrom with hs | ⟨x, hs⟩ <;> cases hs <;> simp
      | _ => cases hanswered
    · refine .inr ⟨op, ?_⟩
      cases m with
      | request method path status => cases hop
      | compilation o predicates =>
        obtain rfl := Option.some.inj hop
        rcases hfrom with hs | ⟨x, hs⟩ <;> cases hs
        · rw [Measurement.matchAllLabel]
          split <;> simp [seriesOf]
        · simp [seriesOf]
      | refusal o errors | audience o count =>
        obtain rfl := Option.some.inj hop
        rcases hfrom with hs | ⟨x, hs⟩ <;> cases hs
        simp [seriesOf]

end Collected

end Reconciles

namespace Event

def request? : Event → Option Request
  | request r => some r
  | drift _ => none

def answers (limits : Limits) : World → List Event → List Answered
  | _, [] => []
  | w, e :: events =>
    (e.request?.map (Answered.ofRequest limits w)).toList ++
      answers limits (apply limits w e) events

section Run

variable {w : World}

theorem run_ofRequest (r : Request) (w : World) :
    ∃ n, ((RequestId.ofRequest r).run w).2 = { w with drawn := n } := by
  rw [RequestId.ofRequest]
  cases r.requestId? with
  | some id => exact ⟨w.drawn, rfl⟩
  | none => exact ⟨w.drawn + 1, rfl⟩

theorem reconciles_handle (limits : Limits) (r : Request) (covered : w.segments.Covered) :
    ∃ measured, Reconciles [Answered.ofRequest limits w r] measured ∧
      ((Server.handle limits r).run w).2.measured = measured.reverse ++ w.measured := by
  obtain ⟨n, hn⟩ := run_ofRequest r w
  have hserved := measures_respond (w := { w with drawn := n }) limits r covered
  obtain ⟨measured, hmeasures, hmeasured⟩ := hserved
  have hanswered : (Answered.ofRequest limits w r).Measures measured := by
    rw [Answered.ofRequest, hn]
    exact hmeasures.of_drawn
  refine ⟨_, .of_measures hanswered, ?_⟩
  rw [List.reverse_append, List.reverse_singleton, List.singleton_append, List.cons_append,
    ← hmeasured, ← hn]
  simp only [Server.handle, Script.run_bind]
  rfl

theorem covered_apply (limits : Limits) (covered : w.segments.Covered) (e : Event) :
    (apply limits w e).segments.Covered := by
  cases e with
  | request r => exact Script.covered_run covered
  | drift d => cases d <;> exact covered

theorem reconciles_answers (limits : Limits) (covered : w.segments.Covered)
    (events : List Event) :
    ∃ measured, Reconciles (answers limits w events) measured ∧
      (after limits w events).measured = measured.reverse ++ w.measured := by
  -- By induction on the events: what an event adds to the measurements, its answer tells, and
  -- what happens besides the requests is not measured.
  induction events generalizing w with
  | nil => exact ⟨[], .nil, rfl⟩
  | cons e events ih =>
    obtain ⟨later, hlater, hafter⟩ := ih (covered_apply limits covered e)
    rw [after, List.foldl_cons, ← after, hafter, answers]
    cases e with
    | request r =>
      obtain ⟨first, hfirst, hmeasured⟩ := reconciles_handle limits r covered
      refine ⟨first ++ later, hfirst.append hlater, ?_⟩
      rw [apply, hmeasured, List.reverse_append, List.append_assoc]
    | drift d => exact ⟨later, hlater, by cases d <;> rfl⟩

theorem map_request_answers (limits : Limits) (w : World) (events : List Event) :
    (answers limits w events).map (·.request) = events.filterMap request? := by
  induction events generalizing w with
  | nil => rfl
  | cons e events ih =>
    rw [answers, List.map_append, ih, List.filterMap_cons]
    cases e <;> rfl

theorem response_handle (limits : Limits) (w : World) (r : Request) :
    ((Server.handle limits r).run w).1.response = (Answered.ofRequest limits w r).sent := by
  simp only [Server.handle, Script.run_bind]
  change (⟨_, if r.method = "HEAD" then _ else _⟩ : Response) = ite (r.method = "HEAD") _ _
  split <;> rfl

end Run

/-- However a service is used, with the clock set and customers added between the requests, and
whatever segments were stored before (`Store.Segments.covered_after`): each request is counted once;
the compilations, refusals and audiences that are counted for an operation are those that its
answers tell, where a refresh of all segments tells how many of them it has refreshed and how many
were refused; and compilations are counted apart where they gave the filter that selects all. -/
theorem measurements_reconcile (limits : Limits) {w : World} (covered : w.segments.Covered)
    (unmeasured : w.measured = []) (events : List Event) {g : Registry}
    (collected : g.measurements = (after limits w events).measured.reverse) :
    -- The answers are those to the requests of the run.
    (answers limits w events).map (·.request) = events.filterMap request? ∧
    (∀ v r, ((Server.handle limits r).run v).1.response = (Answered.ofRequest limits v r).sent) ∧
    -- Each request is counted once, by the template of its route and the status of its answer.
    ((g.series.filter fun s => s.metric = .requests).map g.counterValue).sum =
      (events.filterMap request?).length ∧
    (∀ s ∈ g.series, s.metric = .requests →
      g.counterValue s = (answers limits w events).countP (fun a => a.series = s) ∧
      ∃ a ∈ answers limits w events, s.labels = [("method", a.request.method), ("path", a.label),
        ("status", toString a.sent.status)] ∧ a.label ∈ "unmatched" :: Route.templates) ∧
    (∀ op : Operation,
      -- Compilations are those that answers tell, and of which filters.
      g.counterValue ⟨.compilations, [("operation", op.name), ("match_all", "true")]⟩ +
          g.counterValue ⟨.compilations, [("operation", op.name), ("match_all", "false")]⟩ =
        ((answers limits w events).map (·.successes op)).sum ∧
      g.counterValue ⟨.compilations, [("operation", op.name), ("match_all", "true")]⟩ =
        ((answers limits w events).map fun a => (a.filters op).countP (·.isMatchAll)).sum ∧
      (∀ a ∈ answers limits w events, (a.filters op).length = a.successes op) ∧
      -- So are refusals of rules and the sizes of audiences.
      g.counterValue ⟨.refusals, [("operation", op.name)]⟩ =
        ((answers limits w events).map (·.refusals op)).sum ∧
      g.observations ⟨.audienceSize, [("operation", op.name)]⟩ =
        ((answers limits w events).flatMap (·.sizes op)).map
          fun n : Nat => Decimal.floatOfInt n) ∧
    -- Nothing else is counted.
    ∀ s ∈ g.series, s.metric ∈ [.starts, .requests, .requestSeconds] ∨
      ∃ op : Operation, s ∈ seriesOf op := by
  obtain ⟨measured, h, hmeasured⟩ := reconciles_answers limits covered events
  rw [unmeasured, List.append_nil] at hmeasured
  rw [hmeasured, List.reverse_reverse] at collected
  rw [← collected] at h
  have hanswers := map_request_answers limits w events
  refine ⟨hanswers, response_handle limits, ?_, fun s hs hrequests => ⟨?_, ?_⟩,
    fun op => ⟨?_, ?_, ?_, ?_, ?_⟩, fun s hs => ?_⟩
  · rw [h.sum_requests, ← hanswers, List.length_map]
  · exact h.counterValue_requests hrequests
  · obtain ⟨a, ha, rfl⟩ := h.exists_of_requests hs hrequests
    exact ⟨a, ha, by rw [Answered.status_sent]; rfl, a.label_mem⟩
  · exact h.sum_compilations op
  · exact h.matchAll_compilations op
  · exact (h.tells op).successes
  · exact h.sum_refusals op
  · exact h.observations_sizes op
  · exact h.exists_of_mem_series hs

def dayOfShop : List Event :=
  [.request createByShop, .drift (.customer World.visitor),
    .request (byShop "POST" "/api/segments/preview" "\x7b\"rules\":[]\x7d"),
    .request (byShop "POST" "/api/segments/refresh-all" ""),
    .request (byShop "HEAD" ("/api/segments/" ++ (World.blank.ids 1).write ++ "/audience") ""),
    .request (byShop "GET" "/metrics" "")]

/-- What a collector has of a world, had all been done at once. -/
def collected (w : World) : Registry :=
  ⟨["segment-service"], w.measured.reverse.map fun m => ⟨m, 0⟩⟩

theorem measurements_collected (w : World) :
    (collected w).measurements = w.measured.reverse := by
  rw [Registry.measurements, collected, List.map_map]
  exact List.map_id _

def collectedOfDay : Registry :=
  collected (after ⟨20, 100⟩ .blank dayOfShop)

theorem measurements_reconcile_day :
    World.blank.segments.Covered ∧ World.blank.measured = [] ∧
      collectedOfDay.measurements = (after ⟨20, 100⟩ .blank dayOfShop).measured.reverse ∧
      ((collectedOfDay.series.filter fun s => s.metric = .requests).map
        collectedOfDay.counterValue).sum = 5 ∧
      collectedOfDay.counterValue
        ⟨.compilations, [("operation", "refresh"), ("match_all", "true")]⟩ = 1 ∧
      collectedOfDay.counterValue ⟨.refusals, [("operation", "preview")]⟩ = 1 ∧
      collectedOfDay.observations ⟨.audienceSize, [("operation", "audience")]⟩ =
        [Decimal.floatOfInt 1] := by
  have covered : World.blank.segments.Covered := Store.Segments.covered_after []
  have hcollected : collectedOfDay.measurements =
      (after ⟨20, 100⟩ .blank dayOfShop).measured.reverse := measurements_collected _
  obtain ⟨-, -, hsum, -, hoperations, -⟩ :=
    measurements_reconcile ⟨20, 100⟩ covered rfl dayOfShop hcollected
  obtain ⟨-, hmatchAll, -⟩ := hoperations .refresh
  obtain ⟨-, -, -, hrefusals, -⟩ := hoperations .preview
  obtain ⟨-, -, -, -, hsizes⟩ := hoperations .audience
  have told : (dayOfShop.filterMap request?).length = 5 ∧
      ((answers ⟨20, 100⟩ .blank dayOfShop).map fun a =>
        (a.filters .refresh).countP (·.isMatchAll)).sum = 1 ∧
      ((answers ⟨20, 100⟩ .blank dayOfShop).map (·.refusals .preview)).sum = 1 ∧
      (answers ⟨20, 100⟩ .blank dayOfShop).flatMap (·.sizes .audience) = [1] := by
    decide +kernel
  obtain ⟨hrequests, hfilters, hrefused, hsize⟩ := told
  rw [hrequests] at hsum
  rw [hfilters] at hmatchAll
  rw [hrefused] at hrefusals
  rw [hsize] at hsizes
  exact ⟨covered, rfl, hcollected, hsum, hmatchAll, hrefusals, hsizes⟩

end Event

end Http

end Segmentation
