import Segmentation.Proofs.Instant.Elapsed
import Segmentation.Proofs.Rule.Conditions

namespace Segmentation.Rule

/-- Whether a comparison holds of two values that may have no order; of all comparators only `ne`
holds of such. -/
def Comparator.accepts (c : Comparator) : Option Ordering → Bool
  | some order => c.holds order
  | none => c == .ne

def Combinator.join? (c : Combinator) : List Bool → Option Bool
  | [] => none
  | parts =>
    match c with
    | .and => some (parts.all id)
    | .or => some (parts.any id)

/-- A way to compare the time from `last` to `now` with some milliseconds. -/
abbrev Elapsed := (now last : Instant) → (millis : Int) → Ordering

/-- The whole milliseconds of a number of days, as long as the time line goes back so far. -/
def span? (now : Instant) (days : Float) : Option Int :=
  (Binary64.round? (days * Cutoff.millisPerDay)).filter fun millis => (now.before? millis).isSome

namespace Condition

/-- How the time since an attribute compares with some milliseconds; only an instant has an
order with them. -/
def orderSince? (elapsed : Elapsed) (now : Instant) (millis : Int) :
    Attribute.Value → Option Ordering
  | .timestamp last => some (elapsed now last millis)
  | .number _ => none

/-- What a comparison of a field with a number says of a record. -/
def comparison? (elapsed : Elapsed) (now : Instant) (record : Record) (field : Field)
    (comparator : Comparator) (x : Float) : Option Bool :=
  match field.source with
  | .direct a => some (comparator.accepts ((record a).bind (·.compare? (.number x))))
  | .daysSince a => (span? now x).map fun millis =>
    comparator.accepts ((record a).bind (orderSince? elapsed now millis))

def search? (record : Record) (field : Field) (wanted : String) : Option Bool :=
  match field.source with
  | .direct a => some ((record a).any fun actual =>
    Filter.Pattern.occursIn wanted.toList actual.text.toList)
  | .daysSince _ => none

def meaning? (elapsed : Elapsed) (now : Instant) (record : Record) (c : Condition) : Option Bool :=
  match c.field, c.operator, c.operand with
  | some field, some operator, some operand =>
    match operator.comparator? with
    | some comparator => operand.number?.bind (comparison? elapsed now record field comparator)
    | none => search? record field operand.toText
  | _, _, _ => none

end Condition

namespace Node

mutual

/-- What a node says of a record, if it says anything. -/
def meaning? (elapsed : Elapsed) (now : Instant) (record : Record) : Node → Option Bool
  | .condition c => c.meaning? elapsed now record
  | .group combinator rules => combinator.join? (meanings elapsed now record rules)

def meanings (elapsed : Elapsed) (now : Instant) (record : Record) : List Node → List Bool
  | [] => []
  | node :: rest => (meaning? elapsed now record node).toList ++ meanings elapsed now record rest

end

/-- Whether a rule tree is true of a record; one that says nothing is. -/
def isTrueOf (elapsed : Elapsed) (now : Instant) (record : Record) (node : Node) : Bool :=
  (node.meaning? elapsed now record).getD true

end Node

theorem cutoff?_eq_span? (now : Instant) (days : Float) :
    cutoff? now days = (span? now days).bind now.before? := by
  rw [cutoff?_eq, span?]
  cases Binary64.round? (days * Cutoff.millisPerDay) with
  | none => rfl
  | some millis => cases h : now.before? millis <;> simp [Option.filter, h]

theorem exists_before?_of_span? {now : Instant} {days : Float} {millis : Int}
    (h : span? now days = some millis) : ∃ t, now.before? millis = some t := by
  rw [span?, Option.filter_eq_some_iff] at h
  exact Option.isSome_iff_exists.mp h.2

theorem Comparator.accepts_eq_compareHolds (c : Comparator) (actual? : Option Attribute.Value)
    (value : Attribute.Value) :
    Filter.compareHolds c actual? value = c.accepts (actual?.bind (·.compare? value)) := by
  rw [Filter.compareHolds]
  cases actual?.bind (·.compare? value) <;> rfl

namespace Condition

theorem compareHolds_swap {now t : Instant} {millis : Int} (h : now.before? millis = some t)
    (comparator : Comparator) (actual? : Option Attribute.Value) :
    Filter.compareHolds comparator.swap actual? (.timestamp t) =
      comparator.accepts (actual?.bind (orderSince? Instant.elapsedOrder now millis)) := by
  have hne : (comparator.swap == .ne) = (comparator == .ne) := by cases comparator <;> rfl
  cases actual? with
  | none => exact hne
  | some actual =>
    cases actual with
    | number x => exact hne
    | timestamp last =>
      change comparator.swap.holds (compare last t) =
        comparator.holds (Instant.elapsedOrder now last millis)
      rw [Instant.compare_of_before? h, Comparator.holds_swap, Ordering.swap_swap]

theorem compileComparison_selects (now : Instant) (record : Record) (field : Field)
    (comparator : Comparator) (operand : Operand) :
    (compileComparison now field comparator operand).toOption.map (Filter.selects record) =
      operand.number?.bind (comparison? Instant.elapsedOrder now record field comparator) := by
  rw [compileComparison]
  cases operand.number? with
  | none => rfl
  | some x =>
    simp only [Option.bind_some, comparison?]
    cases field.source with
    | direct a =>
      exact congrArg some (comparator.accepts_eq_compareHolds (record a) (.number x))
    | daysSince a =>
      simp only [cutoff?_eq_span?]
      cases hs : span? now x with
      | none => rfl
      | some millis =>
        obtain ⟨t, ht⟩ := exists_before?_of_span? hs
        rw [Option.bind_some, ht]
        exact congrArg some (compareHolds_swap ht comparator (record a))

theorem occurs_escape (wanted text : String) :
    Filter.Pattern.occurs (Filter.Pattern.escape wanted) text =
      Filter.Pattern.occursIn wanted.toList text.toList := by
  rw [Filter.Pattern.occurs, Filter.Pattern.escape, String.toList_ofList,
    Filter.Pattern.literal?_escapeChars]
  rfl

theorem compileSearch_selects (record : Record) (field : Field) (operand : Operand) :
    (compileSearch field operand).toOption.map (Filter.selects record) =
      search? record field operand.toText := by
  rw [compileSearch, search?]
  cases field.source with
  | direct a =>
    change some ((record a).any fun actual => _) = _
    simp only [occurs_escape]
  | daysSince a => rfl

theorem compile_selects (now : Instant) (record : Record) (c : Condition) :
    (c.compile now).toOption.map (Filter.selects record) =
      c.meaning? Instant.elapsedOrder now record := by
  obtain ⟨field, operator, operand⟩ := c
  cases field with
  | none => rfl
  | some field =>
    cases operator with
    | none => rfl
    | some operator =>
      cases operand with
      | none => rfl
      | some operand =>
        simp only [compile, meaning?]
        cases operator.comparator? with
        | some comparator => exact compileComparison_selects now record field comparator operand
        | none => exact compileSearch_selects record field operand

end Condition

namespace Node

theorem group?_selects (record : Record) (combinator : Combinator) (clauses : List Filter) :
    (Filter.group? combinator clauses).map (Filter.selects record) =
      combinator.join? (clauses.map (Filter.selects record)) := by
  cases clauses with
  | nil => rfl
  | cons clause rest =>
    cases combinator with
    | and =>
      change some (Filter.allSelect record (clause :: rest)) =
        some (((clause :: rest).map (Filter.selects record)).all id)
      rw [Filter.allSelect_eq_all, List.all_map, Function.id_comp]
    | or =>
      change some (Filter.anySelects record (clause :: rest)) =
        some (((clause :: rest).map (Filter.selects record)).any id)
      rw [Filter.anySelects_eq_any, List.any_map, Function.id_comp]

mutual

theorem compile?_selects (now : Instant) (record : Record) (node : Node) :
    (node.compile? now).map (Filter.selects record) =
      node.meaning? Instant.elapsedOrder now record := by
  cases node with
  | condition c => exact c.compile_selects now record
  | group combinator rules =>
    rw [compile?_group, meaning?, ← compileAll_selects now record rules]
    exact group?_selects record combinator _

theorem compileAll_selects (now : Instant) (record : Record) (nodes : List Node) :
    (compileAll now nodes).map (Filter.selects record) =
      meanings Instant.elapsedOrder now record nodes := by
  cases nodes with
  | nil => rfl
  | cons node rest =>
    rw [compileAll, meanings, List.map_append, compileAll_selects now record rest,
      ← compile?_selects now record node]
    cases node.compile? now <;> rfl

end

/-- The filter of a rule tree selects the records of which the tree is true. -/
theorem selects_compile (now : Instant) (record : Record) (node : Node) :
    (node.compile now).selects record = node.isTrueOf Instant.elapsedOrder now record := by
  rw [compile, isTrueOf, ← compile?_selects now record node]
  cases node.compile? now <;> rfl

/-- An order given in the leap second 00:00:60, and the time 12:00:59.75 of that day: with the leap
second, a little more than half a day. -/
def leapOrder : Instant := { seconds := 1717200059, fraction := 1500000000 }

def leapRecord : Record
  | .lastOrderDate => some (.timestamp leapOrder)
  | _ => none

def leapNoon : Instant := { seconds := 1717243259, fraction := 750000000 }

def moreThanHalfADay : Node :=
  .condition ⟨some .inactiveDays, some .greater, some (.number 0.5)⟩

/-- By the bare difference of instants, the filter would not select what the tree is true of: the
cutoff comes before the leap second, which has no length for it. -/
theorem selects_compile_ne_difference :
    ¬ ∀ (now : Instant) (record : Record) (node : Node),
      (node.compile now).selects record = node.isTrueOf Instant.differenceOrder now record := by
  intro h
  have hleap := h leapNoon leapRecord moreThanHalfADay
  revert hleap
  decide +kernel

end Node

end Segmentation.Rule
