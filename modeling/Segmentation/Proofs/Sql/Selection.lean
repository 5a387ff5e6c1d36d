import Segmentation.Proofs.Decimal.Whole
import Segmentation.Proofs.Instant.Elapsed
import Segmentation.Proofs.Rule.Conditions
import Segmentation.Proofs.Sql.Reading

namespace Segmentation

namespace Instant

/-- The least point in time that a database holds, in the year 4713 before our era, in
microseconds since 1970-01-01. -/
def leastMicros : Int := -210866803200000000

/-- The microseconds at which the points in time that a database holds are over, in the year
294277. -/
def endMicros : Int := 9224318016000000000

/-- Whether an instant is one of the points in time that a database holds, which are whole
numbers of microseconds. -/
def IsStorable (t : Instant) : Prop :=
  ∃ micros, leastMicros ≤ micros ∧ micros < endMicros ∧ ofMicros? micros = some t

theorem IsStorable.nanos_eq {t : Instant} (h : t.IsStorable) :
    t.isLeap = false ∧ t.nanos = t.micros * 1000 := by
  obtain ⟨micros, -, -, h⟩ := h
  have hnanos := nanos_of_ofNanos? h
  have hdvd : (1000 : Int) ∣ t.nanos - databaseEpoch * 1000 := by
    rw [hnanos, ← Int.sub_mul]
    exact Int.dvd_mul_left _ _
  refine ⟨isLeap_of_ofNanos? h, ?_⟩
  rw [Instant.micros, Int.add_mul, Int.tdiv_mul_cancel hdvd]
  omega

theorem compare_micros {s t : Instant} (hs : s.IsStorable) (ht : t.IsStorable) :
    compare s.micros t.micros = compare s t := by
  obtain ⟨hsleap, hs⟩ := hs.nanos_eq
  obtain ⟨htleap, ht⟩ := ht.nanos_eq
  rw [isLeap, decide_eq_false_iff_not] at hsleap htleap
  rw [nanos, nanosPerSecond] at hs ht
  symm
  apply compare_eq_of_fraction <;> omega

end Instant

namespace Sql

open Rule (Combinator Comparator)

/-- Whether a condition is true; neither true nor false if that is unknown. -/
abbrev Truth := Option Bool

namespace Truth

def and : Truth → Truth → Truth
  | some p, some q => some (p && q)
  | some p, none | none, some p => if p then none else some false
  | none, none => none

def or : Truth → Truth → Truth
  | some p, some q => some (p || q)
  | some p, none | none, some p => if p then some true else none
  | none, none => none

theorem and_eq_true_iff {p q : Truth} :
    p.and q = some true ↔ p = some true ∧ q = some true := by
  rcases p with _ | _ | _ <;> rcases q with _ | _ | _ <;> decide

theorem or_eq_true_iff {p q : Truth} :
    p.or q = some true ↔ p = some true ∨ q = some true := by
  rcases p with _ | _ | _ <;> rcases q with _ | _ | _ <;> decide

end Truth

namespace Value

/-- The order of two floating-point numbers. A NaN is equal to itself and greater than all
others. -/
def floatOrder (x y : Float) : Ordering :=
  match Binary64.isNaN x, Binary64.isNaN y with
  | true, true => .eq
  | true, false => .gt
  | false, true => .lt
  | false, false => compare (Binary64.orderKey x) (Binary64.orderKey y)

/-- The order of two values, if they are of kinds that can be compared. A whole number is
converted before it is compared with a floating-point one. -/
def order? : Value → Value → Option Ordering
  | int m, int n => some (compare m n)
  | int n, float y => some (floatOrder (Decimal.floatOfInt n) y)
  | float x, int n => some (floatOrder x (Decimal.floatOfInt n))
  | float x, float y => some (floatOrder x y)
  | text s, text t => some (compare s t)
  | uuid a, uuid b => some (compare a b)
  | time s, time t => some (compare s t)
  | _, _ => none

def isNull : Value → Bool
  | null => true
  | _ => false

/-- Whether a comparison of two values is true, which is unknown of a missing value. -/
def holds? (comparator : Comparator) (v w : Value) : Option Truth :=
  if v.isNull || w.isNull then some none
  else (v.order? w).map fun order => some (comparator.holds order)

end Value

def Operand.value? (row : Row) (values : List Value) : Operand → Option Value
  | column name => Table.lookup name row
  | parameter 0 => none
  | parameter (n + 1) => values[n]?

/-- Whether a condition is true of a row; nothing where it cannot be told, since the server refuses
the condition or a search of a pattern is in it. -/
def Expr.truth? (row : Row) (values : List Value) : Expr → Option Truth
  | constant b => some (some b)
  | isNull a => (a.value? row values).map fun v => some v.isNull
  | compare comparator a b => do
    Value.holds? comparator (← a.value? row values) (← b.value? row values)
  | search _ _ => none
  | and p q => do
    return (← p.truth? row values).and (← q.truth? row values)
  | or p q => do
    return (← p.truth? row values).or (← q.truth? row values)

end Sql

/-- Whether a database can hold a value so that it is compared as it is in memory. -/
def Attribute.Value.IsStorable : Attribute.Value → Prop
  | .number x => Binary64.isNaN x = false
  | .timestamp t => t.IsStorable

/-- Whether a database can hold what filters see of a customer. -/
structure Customer.IsStorable (c : Customer) : Prop where
  spend : Binary64.isNaN c.spend = false
  lastOrder : ∀ t, c.lastOrder = some t → t.IsStorable

/-- Whether a filter makes comparisons alone, and with values that a database can hold. -/
def Filter.IsStorable (f : Filter) : Prop :=
  ∀ p ∈ f.predicates, ∃ a comparator value, p = .compare a comparator value ∧ value.IsStorable

theorem Filter.IsStorable.of_mem {combinator : Rule.Combinator} {clauses : List Filter}
    (h : (Filter.group combinator clauses).IsStorable) {f : Filter} (hf : f ∈ clauses) :
    f.IsStorable := by
  intro p hp
  exact h p (mem_predicates_group hf hp)

namespace Sql

open Rule (Combinator Comparator)

theorem Value.floatOrder_eq {x y : Float} (hx : Binary64.isNaN x = false)
    (hy : Binary64.isNaN y = false) : Binary64.compare? x y = some (floatOrder x y) := by
  rw [Binary64.compare?, floatOrder, hx, hy]
  rfl

def boundValue : Attribute.Value → Value
  | .number x => .float x
  | .timestamp t => .ofInstant t

theorem exists_column (c : Customer) (hc : c.IsStorable) (a : Attribute) {value : Attribute.Value}
    (hfits : Condition.fits a value) (hvalue : value.IsStorable) :
    ∃ v, Table.lookup a.column (Customers.toRow c) = some v ∧
      match c.record a with
      | none => v.isNull
      | some actual => v.isNull = false ∧ ∃ order,
        v.order? (boundValue value) = some order ∧ actual.compare? value = some order := by
  cases a with
  | spend =>
    cases value with
    | timestamp t => cases hfits
    | number x =>
      refine ⟨.float c.spend, rfl, rfl, _, rfl, ?_⟩
      exact Value.floatOrder_eq hc.spend hvalue
  | visits =>
    cases value with
    | timestamp t => cases hfits
    | number x =>
      refine ⟨.int c.visits, rfl, rfl, _, rfl, ?_⟩
      exact Value.floatOrder_eq (Decimal.isNaN_floatOfInt c.visits) hvalue
  | lastOrderDate =>
    cases value with
    | number x => cases hfits
    | timestamp t =>
      refine ⟨.optional .ofInstant c.lastOrder, rfl, ?_⟩
      rw [Customer.record]
      cases hlast : c.lastOrder with
      | none => rfl
      | some s =>
        refine ⟨rfl, _, rfl, ?_⟩
        exact congrArg some (Instant.compare_micros (hc.lastOrder s hlast) hvalue).symm

/-- Whether a condition can be told of a row, and is true of it exactly if `b` holds. -/
def Expr.Tells (row : Row) (values : List Value) (e : Expr) (b : Bool) : Prop :=
  ∃ truth, e.truth? row values = some truth ∧ (truth = some true ↔ b = true)

namespace Expr

variable {row : Row} {values : List Value}

theorem tells_constant (b : Bool) : (constant b).Tells row values b :=
  ⟨some b, rfl, by cases b <;> decide⟩

theorem Tells.and {p q : Expr} {a b : Bool} (hp : p.Tells row values a)
    (hq : q.Tells row values b) : (p.and q).Tells row values (a && b) := by
  obtain ⟨s, hs, ha⟩ := hp
  obtain ⟨t, ht, hb⟩ := hq
  refine ⟨s.and t, ?_, ?_⟩
  · rw [truth?, hs, ht]
    rfl
  · rw [Truth.and_eq_true_iff, ha, hb, Bool.and_eq_true]

theorem Tells.or {p q : Expr} {a b : Bool} (hp : p.Tells row values a)
    (hq : q.Tells row values b) : (p.or q).Tells row values (a || b) := by
  obtain ⟨s, hs, ha⟩ := hp
  obtain ⟨t, ht, hb⟩ := hq
  refine ⟨s.or t, ?_, ?_⟩
  · rw [truth?, hs, ht]
    rfl
  · rw [Truth.or_eq_true_iff, ha, hb, Bool.or_eq_true]

theorem tells_isNull {a : Operand} {v : Value} (h : a.value? row values = some v) :
    (isNull a).Tells row values v.isNull := by
  refine ⟨some v.isNull, ?_, ?_⟩
  · rw [truth?, h]
    rfl
  · rw [Option.some.injEq]

theorem tells_compare_of_isNull (comparator : Comparator) {a b : Operand} {v w : Value}
    (ha : a.value? row values = some v) (hb : b.value? row values = some w) (hv : v.isNull) :
    (compare comparator a b).Tells row values false := by
  refine ⟨none, ?_, by decide⟩
  rw [truth?, ha, hb]
  change Value.holds? comparator v w = _
  rw [Value.holds?, hv]
  rfl

theorem tells_compare (comparator : Comparator) {a b : Operand} {v w : Value} {order : Ordering}
    (ha : a.value? row values = some v) (hb : b.value? row values = some w)
    (hv : v.isNull = false) (hw : w.isNull = false) (horder : v.order? w = some order) :
    (compare comparator a b).Tells row values (comparator.holds order) := by
  refine ⟨some (comparator.holds order), ?_, ?_⟩
  · rw [truth?, ha, hb]
    change Value.holds? comparator v w = _
    rw [Value.holds?, hv, hw, horder]
    rfl
  · rw [Option.some.injEq]

theorem tells_guarded (comparator : Comparator) {a b : Operand} {v : Value} {holds : Bool}
    (ha : a.value? row values = some v) (h : (compare comparator a b).Tells row values holds) :
    (if comparator = .ne then (isNull a).or (compare comparator a b)
      else compare comparator a b).Tells row values ((comparator == .ne && v.isNull) || holds) := by
  by_cases hne : comparator = .ne
  · rw [if_pos hne, beq_iff_eq.2 hne, Bool.true_and]
    exact (tells_isNull ha).or h
  · rw [if_neg hne, beq_false_of_ne hne, Bool.false_and, Bool.false_or]
    exact h

section Customer

variable {c : Customer} {k : Nat} {after : List Value}

theorem compareHolds_of_not_fits {a : Attribute} {value : Attribute.Value}
    (h : ¬Condition.fits a value) (comparator : Comparator) :
    Filter.compareHolds comparator (c.record a) value = (comparator == .ne) := by
  have hnone : (c.record a).bind (·.compare? value) = none := by
    cases a with
    | spend =>
      cases value with
      | number x => exact absurd rfl h
      | timestamp t => rfl
    | visits =>
      cases value with
      | number x => exact absurd rfl h
      | timestamp t => rfl
    | lastOrderDate =>
      cases value with
      | number x =>
        rw [Customer.record]
        cases c.lastOrder <;> rfl
      | timestamp t => exact absurd rfl h
  rw [Filter.compareHolds, hnone]

theorem bound_compare {a : Attribute} {value : Attribute.Value} (h : Condition.fits a value)
    (comparator : Comparator) : bound (.compare a comparator value) = [boundValue value] := by
  have hbind : (Condition.bind value).value? = some (boundValue value) := by
    cases value <;> rfl
  rw [bound, Condition.ofFilter, Condition.ofCompare, h]
  change List.filterMap Piece.value? (if comparator = .ne then _ else _) = _
  by_cases hne : comparator = .ne
  · rw [if_pos hne]
    exact List.filterMap_cons_some hbind
  · rw [if_neg hne]
    exact List.filterMap_cons_some hbind

theorem value?_parameter {v : Value} (h : values.drop k = v :: after) :
    (Operand.parameter (k + 1)).value? row values = some v := by
  rw [Operand.value?, ← Nat.add_zero k, ← List.getElem?_drop, h]
  rfl

theorem tells_ofCompare (hc : c.IsStorable) {a : Attribute} {comparator : Comparator}
    {value : Attribute.Value} (hvalue : value.IsStorable)
    (h : values.drop k = bound (.compare a comparator value) ++ after) :
    (ofCompare (k + 1) a comparator value).Tells (Customers.toRow c) values
      (Filter.compareHolds comparator (c.record a) value) := by
  rw [ofCompare]
  by_cases hfits : Condition.fits a value
  · rw [hfits]
    change Tells _ _ (if comparator = .ne then _ else _) _
    rw [bound_compare hfits] at h
    obtain ⟨v, hv, hmatch⟩ := exists_column c hc a hfits hvalue
    have hcolumn : (Operand.column a.column).value? (Customers.toRow c) values = some v := hv
    have hparameter : (Operand.parameter (k + 1)).value? (Customers.toRow c) values =
        some (boundValue value) := value?_parameter h
    have hw : (boundValue value).isNull = false := by cases value <;> rfl
    cases hrecord : c.record a with
    | none =>
      rw [hrecord] at hmatch
      have hfalse := tells_compare_of_isNull comparator hcolumn hparameter hmatch
      have hguarded := tells_guarded comparator hcolumn hfalse
      rw [hmatch, Bool.and_true, Bool.or_false] at hguarded
      exact hguarded
    | some actual =>
      rw [hrecord] at hmatch
      obtain ⟨hnull, order, horder, hactual⟩ := hmatch
      have hcompare := tells_compare comparator hcolumn hparameter hnull hw horder
      have hguarded := tells_guarded comparator hcolumn hcompare
      rw [hnull, Bool.and_false, Bool.false_or] at hguarded
      rw [Filter.compareHolds, Option.bind_some, hactual]
      exact hguarded
  · rw [Bool.not_eq_true] at hfits
    rw [compareHolds_of_not_fits (Bool.eq_false_iff.1 hfits), hfits]
    exact tells_constant _

theorem bound_group (combinator : Combinator) (clause : Filter) (rest : List Filter) :
    bound (.group combinator (clause :: rest)) =
      bound clause ++ (Condition.further combinator rest).filterMap Piece.value? := by
  rw [bound, Condition.ofFilter]
  change List.filterMap Piece.value? (Condition.ofFilter clause ++
    (Condition.further combinator rest ++ [.word .closing])) = _
  rw [List.filterMap_append, List.filterMap_append]
  exact congrArg _ (List.append_nil _)

theorem bound_further (combinator : Combinator) (clause : Filter) (rest : List Filter) :
    (Condition.further combinator (clause :: rest)).filterMap Piece.value? =
      bound clause ++ (Condition.further combinator rest).filterMap Piece.value? := by
  rw [Condition.further]
  change List.filterMap Piece.value? (Condition.ofFilter clause ++ _) = _
  rw [List.filterMap_append]
  rfl

theorem drop_bound {clause : Filter} {vs : List Value}
    (h : values.drop k = bound clause ++ vs) :
    values.drop (k + (bound clause).length) = vs := by
  rw [← List.drop_drop, h, List.drop_left]

def told (combinator : Combinator) (b : Bool) (record : Record) (clauses : List Filter) : Bool :=
  match combinator with
  | .and => b && Filter.allSelect record clauses
  | .or => b || Filter.anySelects record clauses

theorem told_nil (combinator : Combinator) (b : Bool) (record : Record) :
    told combinator b record [] = b := by
  cases combinator with
  | and => exact Bool.and_true b
  | or => exact Bool.or_false b

def joinBool : Combinator → Bool → Bool → Bool
  | .and => Bool.and
  | .or => Bool.or

theorem told_cons (combinator : Combinator) (b : Bool) (record : Record) (clause : Filter)
    (rest : List Filter) :
    told combinator b record (clause :: rest) =
      told combinator (joinBool combinator b (clause.selects record)) record rest := by
  cases combinator with
  | and => exact (Bool.and_assoc _ _ _).symm
  | or => exact (Bool.or_assoc _ _ _).symm

mutual

theorem tells_ofFilter (hc : c.IsStorable) (f : Filter) (hf : f.IsStorable) {k : Nat}
    {after : List Value} (h : values.drop k = bound f ++ after) :
    (ofFilter (k + 1) f).Tells (Customers.toRow c) values (f.selects c.record) := by
  cases f with
  | matchAll => exact tells_constant true
  | compare a comparator value =>
    obtain ⟨_, _, _, heq, hvalue⟩ := hf _ List.mem_cons_self
    cases heq
    exact tells_ofCompare hc hvalue h
  | pattern a text =>
    obtain ⟨_, _, _, heq, -⟩ := hf _ List.mem_cons_self
    cases heq
  | group combinator clauses =>
    cases clauses with
    | nil => cases combinator <;> exact tells_constant _
    | cons clause rest =>
      rw [bound_group, List.append_assoc] at h
      have htells := tells_ofFilter hc clause (hf.of_mem List.mem_cons_self) h
      have hgrow := tells_grow hc combinator rest
        (fun f hmem => hf.of_mem (List.mem_cons_of_mem _ hmem)) (drop_bound h) htells
      rw [ofFilter, Nat.add_right_comm]
      cases combinator <;> exact hgrow

theorem tells_grow (hc : c.IsStorable) (combinator : Combinator) (clauses : List Filter)
    (hclauses : ∀ f ∈ clauses, f.IsStorable) {k : Nat} {after : List Value}
    (h : values.drop k = (Condition.further combinator clauses).filterMap Piece.value? ++ after)
    {e : Expr} {b : Bool} (he : e.Tells (Customers.toRow c) values b) :
    (grow combinator e (k + 1) clauses).Tells (Customers.toRow c) values
      (told combinator b c.record clauses) := by
  cases clauses with
  | nil =>
    rw [grow, told_nil]
    exact he
  | cons clause rest =>
    rw [bound_further, List.append_assoc] at h
    have htells := tells_ofFilter hc clause (hclauses clause List.mem_cons_self) h
    rw [told_cons, grow, Nat.add_right_comm]
    refine tells_grow hc combinator rest (fun f hf => hclauses f (List.mem_cons_of_mem _ hf))
      (drop_bound h) ?_
    cases combinator with
    | and => exact he.and htells
    | or => exact he.or htells

end

theorem tells_ofScope (hc : c.IsStorable) {filter : Filter} (hf : filter.IsStorable)
    (owner : String) (after : List Value) :
    (ofScope filter).Tells (Customers.toRow c) (.text owner :: (bound filter ++ after))
      (c.owner == owner && filter.selects c.record) := by
  have howner : (compare .eq (.column "owner_id") (.parameter 1)).Tells (Customers.toRow c)
      (.text owner :: (bound filter ++ after)) (c.owner == owner) := by
    have h := @tells_compare (Customers.toRow c) (.text owner :: (bound filter ++ after)) .eq
      (.column "owner_id") (.parameter 1) (.text c.owner) (.text owner) _ rfl rfl rfl rfl rfl
    have heq : Comparator.eq.holds (Ord.compare c.owner owner) = (c.owner == owner) := by
      rw [Bool.eq_iff_iff, beq_iff_eq]
      change (Ord.compare c.owner owner == Ordering.eq) = true ↔ _
      rw [beq_iff_eq]
      exact Std.LawfulEqOrd.compare_eq_iff_eq
    rw [heq] at h
    exact h
  exact howner.and (tells_ofFilter hc filter hf rfl)

end Customer

end Expr

/-- Whether the condition of a statement can be told of a row, and is true of it exactly if `b`
holds. -/
def Statement.Tells (s : Statement) (row : Row) (b : Bool) : Prop :=
  ∃ e, Expr.ofText? s.text = some e ∧ e.Tells row s.values b

theorem Statement.values_ofPieces_append (ps qs : List Piece) :
    (ofPieces (ps ++ qs)).values = (ofPieces ps).values ++ (ofPieces qs).values :=
  List.filterMap_append

namespace Customers

theorem values_count (filter : Filter) (owner : String) :
    (count filter owner).statement.values = .text owner :: (Expr.bound filter ++ []) := by
  rw [List.append_nil]
  rfl

theorem values_find (filter : Filter) (owner : String) (limit : Nat) :
    (find filter owner limit).statement.values =
      .text owner :: (Expr.bound filter ++ [.int (min limit Word.maxInt)]) := by
  have h (ps qs : List Piece) := Statement.values_ofPieces_append ps qs
  have hordering : (Statement.ofPieces ordering).values = [] := rfl
  rw [find, findPieces, h, h, h, hordering, List.append_nil]
  rfl

/-- Of the rows of customers that a database can hold, both queries mean those that a filter
selects in memory, whatever the filter without searches is made of. -/
theorem tells_count_and_find (filter : Filter) (hf : filter.IsStorable) (owner : String)
    (limit : Nat) (c : Customer) (hc : c.IsStorable) :
    (count filter owner).statement.Tells (toRow c)
      (c.owner == owner && filter.selects c.record) ∧
    (find filter owner limit).statement.Tells (toRow c)
      (c.owner == owner && filter.selects c.record) := by
  refine ⟨⟨_, ofText?_count filter owner, ?_⟩, ⟨_, ofText?_find filter owner limit, ?_⟩⟩
  · rw [values_count]
    exact Expr.tells_ofScope hc hf owner _
  · rw [values_find]
    exact Expr.tells_ofScope hc hf owner _

def notOfTheEpoch : Filter :=
  .group .or [.compare .lastOrderDate .ne (.timestamp default),
    .group .and [.matchAll, .compare .spend .gt (.number 100)], .group .or []]

def newcomer : Customer :=
  { id := default
    owner := "shop"
    name := "Ada"
    email := "ada@example.com"
    spend := 5
    visits := 1
    lastOrder := none
    createdAt := default }

/-- A customer who never ordered is among them, though a comparison with no date is unknown. -/
theorem tells_newcomer :
    notOfTheEpoch.IsStorable ∧ newcomer.IsStorable ∧
      (count notOfTheEpoch "shop").statement.Tells (toRow newcomer) true := by
  have hf : notOfTheEpoch.IsStorable := by
    intro p hp
    rcases List.mem_cons.1 hp with rfl | hp
    · exact ⟨_, _, _, rfl, 0, by decide, by decide, rfl⟩
    · rw [List.mem_singleton.1 hp]
      refine ⟨_, _, _, rfl, ?_⟩
      change Binary64.isNaN 100 = false
      decide +kernel
  have hc : newcomer.IsStorable := by
    refine ⟨?_, fun t ht => by cases ht⟩
    change Binary64.isNaN 5 = false
    decide +kernel
  exact ⟨hf, hc, (tells_count_and_find notOfTheEpoch hf "shop" 10 newcomer hc).1⟩

end Customers

end Sql

end Segmentation
