import Segmentation.Proofs.Http.History
import Segmentation.Proofs.Instant.Text
import Segmentation.Proofs.Rule.Conditions

namespace Segmentation

namespace Filter

open Rule (Combinator Comparator)

/-- Whether all numbers that records are compared with are finite. -/
def IsFinite (f : Filter) : Prop :=
  ∀ a comparator x, .compare a comparator (.number x) ∈ f.predicates → Binary64.isFinite x

theorem IsFinite.of_mem {combinator : Combinator} {clauses : List Filter}
    (h : (group combinator clauses).IsFinite) {f : Filter} (hf : f ∈ clauses) : f.IsFinite := by
  intro a comparator x hx
  exact h a comparator x (mem_predicates_group hf hx)

theorem valueOfJson?_valueToJson {value : Attribute.Value}
    (h : ∀ x, value = .number x → Binary64.isFinite x) :
    valueOfJson? (valueToJson value) = some value := by
  cases value with
  | number x =>
    have hx := h x rfl
    rw [valueToJson, Json.ofFloat, if_pos hx]
    rfl
  | timestamp t =>
    have hread (text : String) :
        valueOfJson? (.obj [("type", .str "timestamp"), ("value", .str text)]) =
          (Instant.read? text).map .timestamp := rfl
    rw [valueToJson, hread, Instant.read?_write, Option.map_some]

theorem compareOfParts?_written (a : Attribute) (comparator : Comparator)
    {value : Attribute.Value} (h : ∀ x, value = .number x → Binary64.isFinite x) :
    compareOfParts? (.str a.name) (.str comparator.name) (valueToJson value) =
      some (.compare a comparator value) := by
  simp only [compareOfParts?, choiceName?, Json.choiceName?, Option.bind_some,
    Attribute.ofName?_name, Comparator.ofName?_name, valueOfJson?_valueToJson h,
    Option.bind_eq_bind]
  rfl

theorem patternOfParts?_written (a : Attribute) (text : String) :
    patternOfParts? (.str a.name) (.str text) = some (.pattern a text) := by
  simp only [patternOfParts?, choiceName?, Json.choiceName?, Option.bind_some,
    Attribute.ofName?_name, Json.str?, Option.bind_eq_bind]
  rfl

mutual

theorem decode?_toJson (inGroup : Bool) {f : Filter} (h : f.IsFinite) :
    decode? inGroup f.toJson = some f := by
  cases f with
  | matchAll => rfl
  | group combinator clauses =>
    have hall := decodeAll?_toItems fun f hf => h.of_mem hf
    cases combinator with
    | and =>
      change (decodeAll? (toItems clauses)).map (group .and) = _
      rw [hall, Option.map_some]
    | or =>
      change (decodeAll? (toItems clauses)).map (group .or) = _
      rw [hall, Option.map_some]
  | compare a comparator value =>
    change compareOfParts? (.str a.name) (.str comparator.name) (valueToJson value) = _
    apply compareOfParts?_written a comparator
    rintro x rfl
    exact h a comparator x (List.mem_singleton.2 rfl)
  | pattern a text =>
    change patternOfParts? (.str a.name) (.str text) = _
    exact patternOfParts?_written a text

theorem decodeAll?_toItems {clauses : List Filter} (h : ∀ f ∈ clauses, f.IsFinite) :
    decodeAll? (toItems clauses) = some clauses := by
  cases clauses with
  | nil => rfl
  | cons clause rest =>
    rw [toItems, decodeAll?, decode?_toJson true (h clause List.mem_cons_self),
      decodeAll?_toItems fun f hf => h f (List.mem_cons_of_mem _ hf)]

end

theorem ofJson?_toJson {f : Filter} (h : f.IsFinite) : ofJson? f.toJson = some f :=
  decode?_toJson false h

end Filter

namespace Rule

theorem Operand.isFinite_of_number? {operand : Operand} {x : Float}
    (h : operand.number? = some x) : Binary64.isFinite x :=
  (Option.filter_eq_some_iff.1 h).2

theorem Condition.isFinite_of_predicate? {now : Instant} {c : Condition} {a : Attribute}
    {comparator : Comparator} {x : Float}
    (h : c.predicate? now = some (.compare a comparator (.number x))) : Binary64.isFinite x := by
  cases predicate?_eq_some_iff_becomes.1 h with
  | comparison hcomparator ha hx => exact Operand.isFinite_of_number? hx

theorem Node.isFinite_compile (now : Instant) (node : Node) : (node.compile now).IsFinite := by
  intro a comparator x hx
  rw [predicates_compile, List.mem_filterMap] at hx
  obtain ⟨c, -, hc⟩ := hx
  exact Condition.isFinite_of_predicate? hc

end Rule

open Http (Event)

/-- A filter with finite numbers is read back from what is written of it, whatever its groups,
patterns and instants are. The numbers of compiled rules are finite, so what is read of a compiled
filter, and of any filter that is stored in the course of any requests, selects the same records. -/
theorem Filter.snapshots_are_faithful :
    (∀ f : Filter, f.IsFinite → ofJson? f.toJson = some f) ∧
    (∀ (now : Instant) (node : Rule.Node), (node.compile now).IsFinite ∧
      ∃ f, ofJson? (node.compile now).toJson = some f ∧
        ∀ record, f.selects record = (node.compile now).selects record) ∧
    ∀ (limits : Service.Limits) (w : Service.World) (events : List Event),
      ∀ s ∈ (Event.after limits w.cleared events).segments.byId.values,
        ∃ f, ofJson? s.filter.toJson = some f ∧
          ∀ record, f.selects record = s.filter.selects record := by
  have compiled (now : Instant) (node : Rule.Node) :
      ofJson? (node.compile now).toJson = some (node.compile now) :=
    ofJson?_toJson (node.isFinite_compile now)
  refine ⟨fun f hf => ofJson?_toJson hf, ?_, ?_⟩
  · intro now node
    exact ⟨node.isFinite_compile now, _, compiled now node, fun record => rfl⟩
  · intro limits w events s hs
    obtain ⟨id, hid⟩ := Table.mem_values_iff.1 hs
    obtain ⟨-, -, before, r, later, -, -, evaluated, -⟩ := Event.of_stored rfl hid
    refine ⟨s.filter, ?_, fun record => rfl⟩
    rw [evaluated.filter]
    exact compiled _ _

/-- A filter with an empty group, an instant in a leap second of the year -44, one of the year
10000 with nanoseconds, and a number that no binary number is equal to. -/
def Filter.manyParts : Filter :=
  .group .or
    [.group .and [],
      .compare .lastOrderDate .lt
        (.timestamp ((Instant.ofParts? (-63549792001) 1500000000).getD default)),
      .group .and
        [.compare .lastOrderDate .ne
          (.timestamp ((Instant.ofParts? 253402300800 7).getD default)),
          .compare .spend .gte (.number 0.1)],
      .pattern .visits "\\(1"]

theorem Filter.snapshots_are_faithful_manyParts :
    (manyParts.IsFinite ∧ ofJson? manyParts.toJson = some manyParts) ∧
    ∃ s ∈ (Event.after ⟨20, 100⟩ Service.World.blank.cleared
        Event.yearOfShop).segments.byId.values,
      ∃ f, ofJson? s.filter.toJson = some f ∧
        ∀ record, f.selects record = s.filter.selects record := by
  obtain ⟨hread, -, hstored⟩ := snapshots_are_faithful
  have hfinite : manyParts.IsFinite := by
    intro a comparator x hx
    change _ ∈ [Filter.compare _ _ _, .compare _ _ _, .compare _ _ _, .pattern _ _] at hx
    simp only [List.mem_cons, List.not_mem_nil, Filter.compare.injEq, reduceCtorEq,
      Attribute.Value.number.injEq, and_false, or_false, false_or] at hx
    rw [hx.2.2]
    decide +kernel
  have hfound : ∃ s ∈ (Event.after ⟨20, 100⟩ Service.World.blank.cleared
      Event.yearOfShop).segments.byId.values, s.name = "VIP" := by decide +kernel
  obtain ⟨s, hs, -⟩ := hfound
  exact ⟨⟨hfinite, hread _ hfinite⟩, s, hs, hstored _ _ _ s hs⟩

end Segmentation
