import Mathlib.Algebra.BigOperators.Group.List.Lemmas
import Mathlib.Algebra.GroupWithZero.Nat
import Mathlib.Data.List.Dedup
import Segmentation.Metrics.Exposition

namespace Segmentation.Metrics

namespace Measurement

def predicates? (operation : String) : Measurement → Option Nat
  | compilation o predicates => if o = operation then some predicates else none
  | _ => none

def isRefusal (operation : String) : Measurement → Bool
  | refusal o _ => o = operation
  | _ => false

def size? (operation : String) : Measurement → Option Nat
  | audience o count => if o = operation then some count else none
  | _ => none

def answered? : Measurement → Option Series
  | request method path status => (request method path status).counter?
  | _ => none

def operation? : Measurement → Option String
  | request _ _ _ => none
  | compilation operation _ | refusal operation _ | audience operation _ => some operation

theorem matchAllLabel_eq_true_iff {predicates : Nat} :
    matchAllLabel predicates = "true" ↔ predicates = 0 := by
  rw [matchAllLabel]
  split <;> simp_all

section Silence

variable {operation : String} {measured : List Measurement}
  (h : ∀ m ∈ measured, m.operation? ≠ some operation)

include h

theorem filterMap_predicates?_eq_nil : measured.filterMap (·.predicates? operation) = [] := by
  refine List.filterMap_eq_nil_iff.2 fun m hm => ?_
  cases m with
  | compilation o predicates => exact if_neg fun ho => h _ hm (congrArg some ho)
  | _ => rfl

theorem countP_isRefusal_eq_zero : measured.countP (·.isRefusal operation) = 0 := by
  refine List.countP_eq_zero.2 fun m hm => ?_
  cases m with
  | refusal o errors => exact fun ho => h _ hm (congrArg some (of_decide_eq_true ho))
  | _ => exact Bool.false_ne_true

theorem filterMap_size?_eq_nil : measured.filterMap (·.size? operation) = [] := by
  refine List.filterMap_eq_nil_iff.2 fun m hm => ?_
  cases m with
  | audience o count => exact if_neg fun ho => h _ hm (congrArg some ho)
  | _ => rfl

end Silence

end Measurement

namespace Registry

variable {g : Registry} {operation : String}

/-- All that was measured, the earliest first. -/
def measurements (g : Registry) : List Measurement :=
  g.readings.map (·.measurement)

theorem counted_eq (g : Registry) : g.counted =
    g.started.map (fun service => ⟨.starts, [("service", service)]⟩) ++
      g.measurements.filterMap (·.counter?) := by
  rw [counted, measurements, List.filterMap_map]
  rfl

theorem counterValue_eq {s : Series} (h : s.metric ≠ .starts) :
    g.counterValue s = g.measurements.countP fun m => m.counter? = some s := by
  rw [counterValue, counted_eq, List.count_append, List.count_filterMap, List.count_eq_zero.2,
    Nat.zero_add]
  · exact List.countP_congr fun m _ => by rw [beq_iff_eq, decide_eq_true_eq]
  · intro hmem
    obtain ⟨service, -, rfl⟩ := List.mem_map.1 hmem
    exact h rfl

theorem counterValue_compilations (g : Registry) (operation label : String) :
    g.counterValue ⟨.compilations, [("operation", operation), ("match_all", label)]⟩ =
      (g.measurements.filterMap (·.predicates? operation)).countP
        fun predicates => Measurement.matchAllLabel predicates = label := by
  rw [counterValue_eq (by exact nofun), List.countP_filterMap]
  refine List.countP_congr fun m _ => ?_
  cases m with
  | compilation o predicates =>
    by_cases ho : o = operation <;> simp [Measurement.counter?, Measurement.predicates?, ho]
  | _ => simp [Measurement.counter?, Measurement.predicates?]

theorem counterValue_compilations_add (g : Registry) (operation : String) :
    g.counterValue ⟨.compilations, [("operation", operation), ("match_all", "true")]⟩ +
      g.counterValue ⟨.compilations, [("operation", operation), ("match_all", "false")]⟩ =
    (g.measurements.filterMap (·.predicates? operation)).length := by
  rw [counterValue_compilations, counterValue_compilations, List.length_eq_countP_add_countP
    fun predicates => decide (Measurement.matchAllLabel predicates = "true")]
  congr 1
  refine List.countP_congr fun predicates _ => ?_
  by_cases h : predicates = 0 <;> simp [Measurement.matchAllLabel, h]

theorem counterValue_refusals (g : Registry) (operation : String) :
    g.counterValue ⟨.refusals, [("operation", operation)]⟩ =
      g.measurements.countP (·.isRefusal operation) := by
  rw [counterValue_eq (by exact nofun)]
  refine List.countP_congr fun m _ => ?_
  cases m <;> simp [Measurement.counter?, Measurement.isRefusal]

theorem counterValue_requests {s : Series} (h : s.metric = .requests) :
    g.counterValue s = (g.measurements.filterMap (·.answered?)).count s := by
  rw [counterValue_eq (by rw [h]; decide), List.count_filterMap]
  refine List.countP_congr fun m _ => ?_
  obtain ⟨metric, labels⟩ := s
  obtain rfl := h
  cases m <;> simp [Measurement.counter?, Measurement.answered?]

theorem observations_audienceSize (g : Registry) (operation : String) :
    g.observations ⟨.audienceSize, [("operation", operation)]⟩ =
      (g.measurements.filterMap (·.size? operation)).map fun n : Nat => Decimal.floatOfInt n := by
  rw [observations, observed, measurements]
  induction g.readings with
  | nil => rfl
  | cons reading rest ih =>
    obtain ⟨m, seconds⟩ := reading
    rw [List.filterMap_cons, List.map_cons, List.filterMap_cons]
    cases m with
    | audience o count =>
      by_cases ho : o = operation <;>
        simp [Reading.observation?, Measurement.size?, ho, ih]
    | _ => simp [Reading.observation?, Measurement.size?, ih]

theorem nodup_eraseDups {α : Type} [DecidableEq α] (l : List α) : l.eraseDups.Nodup := by
  match l with
  | [] => exact List.nodup_nil
  | a :: rest =>
    rw [List.eraseDups_cons, List.nodup_cons, List.mem_eraseDups]
    refine ⟨by simp, nodup_eraseDups _⟩
termination_by l.length
decreasing_by exact Nat.lt_succ_of_le (List.length_filter_le _ _)

theorem exists_of_mem_series {s : Series} (h : s ∈ g.series) :
    s.metric = .starts ∨ ∃ r ∈ g.readings, r.measurement.counter? = some s ∨
      ∃ x, r.observation? = some (s, x) := by
  rw [series, List.mem_eraseDups, List.mem_append, counted, List.mem_append] at h
  rcases h with (h | h) | h
  · obtain ⟨service, -, rfl⟩ := List.mem_map.1 h
    exact .inl rfl
  · obtain ⟨r, hr, hs⟩ := List.mem_filterMap.1 h
    exact .inr ⟨r, hr, .inl hs⟩
  · obtain ⟨⟨s, x⟩, hx, rfl⟩ := List.mem_map.1 h
    obtain ⟨r, hr, hs⟩ := List.mem_filterMap.1 hx
    exact .inr ⟨r, hr, .inr ⟨x, hs⟩⟩

theorem mem_series_requests {s : Series} : s ∈ g.series ∧ s.metric = .requests ↔
    s ∈ g.counted ∧ s.metric = .requests := by
  refine and_congr_left fun hmetric => ?_
  rw [series, List.mem_eraseDups, List.mem_append, or_iff_left]
  intro hmem
  obtain ⟨⟨s, x⟩, hx, rfl⟩ := List.mem_map.1 hmem
  obtain ⟨⟨m, seconds⟩, -, hobserved⟩ := List.mem_filterMap.1 hx
  cases m <;> cases hobserved <;> cases hmetric

theorem sum_counterValue_requests (g : Registry) :
    ((g.series.filter fun s => s.metric = .requests).map g.counterValue).sum =
      (g.measurements.filterMap (·.answered?)).length := by
  have perm : (g.series.filter fun s => s.metric = .requests).Perm
      (g.counted.dedup.filter fun s => s.metric = .requests) := by
    refine (List.perm_ext_iff_of_nodup ((nodup_eraseDups _).filter _)
      ((List.nodup_dedup _).filter _)).2 fun s => ?_
    rw [List.mem_filter, List.mem_filter, List.mem_dedup, decide_eq_true_eq]
    exact mem_series_requests
  rw [(perm.map _).sum_eq]
  have hsum := List.sum_map_count_dedup_filter_eq_countP
    (fun s : Series => decide (s.metric = .requests)) g.counted
  refine hsum.trans ?_
  rw [counted_eq, List.countP_append, List.countP_filterMap, List.length_filterMap_eq_countP,
    List.countP_eq_zero.2, Nat.zero_add]
  · refine List.countP_congr fun m _ => ?_
    cases m <;> simp [Measurement.counter?, Measurement.answered?]
  · intro s hs
    obtain ⟨service, -, rfl⟩ := List.mem_map.1 hs
    exact Bool.false_ne_true

end Registry

end Segmentation.Metrics
