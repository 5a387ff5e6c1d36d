import Segmentation.Proofs.Rule.Pruning

namespace Segmentation

namespace Instant

def ofParts (seconds : Int) (fraction : Nat) : Instant :=
  (ofParts? seconds fraction).getD default

/-- The instant some nanoseconds after `t`, or before it if they are negative. A way out of a leap
second starts from the second after it if it goes back, and from the second before it if it goes
forward; a way that is too short to leave it ends within. -/
def after? (t : Instant) (span : Int) : Option Instant :=
  if !t.isLeap || decide (span ≤ -nanosPerSecond) then ofNanos? (t.nanos + span)
  else if decide (span < nanosPerSecond) && decide (t.fraction + span < 2 * nanosPerSecond) then
    ofParts? t.seconds (t.fraction + span).toNat
  else ofNanos? (t.nanos - nanosPerSecond + span)

/-- Whether `s` is as far from `t` as `s'` is from `u`, each on the time line as it is seen from
there. -/
def AsFar (t u s s' : Instant) : Prop :=
  t.placeFrom t - t.placeFrom s = u.placeFrom u - u.placeFrom s'

/-- Whether `s'` lies after `s` by the time from `t` to `u`. -/
def Follows (t u s s' : Instant) : Prop :=
  s.after? (u.since t) = some s'

instance (t u s s' : Instant) : Decidable (Follows t u s s') :=
  inferInstanceAs (Decidable (s.after? (u.since t) = some s'))

theorem asFar_of_before? {t u s s' : Instant} {millis : Int} (hs : t.before? millis = some s)
    (hs' : u.before? millis = some s') : AsFar t u s s' := by
  rw [AsFar, placeFrom_self, placeFrom_self, (placeFrom_of_before? hs).1,
    (placeFrom_of_before? hs').1]
  omega

theorem after?_of_not_leap {t : Instant} (h : t.isLeap = false) (span : Int) :
    t.after? span = ofNanos? (t.nanos + span) := by
  simp [after?, h]

section

variable {t u s s' : Instant} (ht : t.isLeap = false) (hu : u.isLeap = false)

include ht hu

theorem follows_of_before? {millis : Int} (hs : t.before? millis = some s)
    (hs' : u.before? millis = some s') : Follows t u s s' := by
  rw [before?_of_not_leap ht] at hs
  rw [before?_of_not_leap hu] at hs'
  have hmoved : s.nanos + (u.nanos - t.nanos) = u.nanos - millis * nanosPerMilli := by
    rw [nanos_of_ofNanos? hs]
    omega
  rw [Follows, after?_of_not_leap (isLeap_of_ofNanos? hs), since_of_not_leap hu ht, hmoved]
  exact hs'

theorem asFar_of_follows (hs : s.isLeap = false) (h : Follows t u s s') : AsFar t u s s' := by
  rw [Follows, after?_of_not_leap hs, since_of_not_leap hu ht] at h
  have hmoved := nanos_of_ofNanos? h
  have hplace : t.placeFrom s = 2 * s.nanos := placeFrom_of_le hs fun hleap => by simp [ht] at hleap
  have hplace' : u.placeFrom s' = 2 * s'.nanos :=
    placeFrom_of_le (isLeap_of_ofNanos? h) fun hleap => by simp [hu] at hleap
  rw [AsFar, placeFrom_self, placeFrom_self, hplace, hplace']
  omega

end

end Instant

/-- Two values that are the same but for timestamps that are related. -/
inductive Attribute.Value.Moves (R : Instant → Instant → Prop) :
    Attribute.Value → Attribute.Value → Prop
  | number (x : Float) : Moves R (.number x) (.number x)
  | timestamp {s s' : Instant} (related : R s s') : Moves R (.timestamp s) (.timestamp s')

/-- Two filters that are the same but for timestamps that are related. -/
inductive Filter.Moves (R : Instant → Instant → Prop) : Filter → Filter → Prop
  | matchAll : Moves R .matchAll .matchAll
  | group {combinator : Rule.Combinator} {clauses clauses' : List Filter}
      (related : List.Forall₂ (Moves R) clauses clauses') :
      Moves R (.group combinator clauses) (.group combinator clauses')
  | compare {a : Attribute} {comparator : Rule.Comparator} {value value' : Attribute.Value}
      (related : value.Moves R value') :
      Moves R (.compare a comparator value) (.compare a comparator value')
  | pattern (a : Attribute) (text : String) : Moves R (.pattern a text) (.pattern a text)

/-- Two records that are the same but for the date of the last order. -/
structure Record.Moves (R : Instant → Instant → Prop) (record record' : Record) : Prop where
  date : Option.Rel (Attribute.Value.Moves R) (record .lastOrderDate) (record' .lastOrderDate)
  rest : ∀ a, a ≠ .lastOrderDate → record a = record' a

theorem Attribute.Value.Moves.imp {R S : Instant → Instant → Prop} {value value' : Attribute.Value}
    (h : value.Moves R value') (himp : ∀ s s', R s s' → S s s') : value.Moves S value' := by
  cases h with
  | number x => exact .number x
  | timestamp related => exact .timestamp (himp _ _ related)

namespace Record

theorem Moves.imp {R S : Instant → Instant → Prop} {record record' : Record}
    (h : record.Moves R record') (himp : ∀ s s', R s s' → S s s') : record.Moves S record' := by
  obtain ⟨date, rest⟩ := h
  refine ⟨?_, rest⟩
  generalize record .lastOrderDate = last, record' .lastOrderDate = last' at date ⊢
  cases date with
  | none => exact .none
  | some moved => exact .some (moved.imp himp)

def orderedAt (last : Instant) : Record
  | .lastOrderDate => some (.timestamp last)
  | .spend | .visits => none

theorem moves_orderedAt {R : Instant → Instant → Prop} {last last' : Instant} (h : R last last') :
    (orderedAt last).Moves R (orderedAt last') := by
  constructor
  · exact .some (.timestamp h)
  · intro a ha
    cases a with
    | lastOrderDate => exact absurd rfl ha
    | spend | visits => rfl

end Record

theorem Attribute.Value.eq_of_moves {value value' : Attribute.Value} (h : value.Moves Eq value') :
    value = value' := by
  cases h with
  | number x => rfl
  | timestamp related => rw [related]

mutual

theorem Filter.eq_of_moves {f f' : Filter} (h : f.Moves Eq f') : f = f' := by
  cases f with
  | group combinator clauses =>
    cases h with
    | group related => rw [Filter.eq_of_forall₂_moves related]
  | compare a comparator value =>
    cases h with
    | compare related => rw [Attribute.Value.eq_of_moves related]
  | matchAll | pattern =>
    cases h
    rfl

theorem Filter.eq_of_forall₂_moves {fs fs' : List Filter}
    (h : List.Forall₂ (Filter.Moves Eq) fs fs') : fs = fs' := by
  cases fs with
  | nil =>
    cases h
    rfl
  | cons f rest =>
    cases h with
    | cons related below =>
      rw [Filter.eq_of_moves related, Filter.eq_of_forall₂_moves below]

end

namespace Rule

open Instant (AsFar Follows)

theorem Field.ne_lastOrderDate_of_direct {field : Field} {a : Attribute}
    (h : field.source = .direct a) : a ≠ .lastOrderDate := by
  cases Field.attribute_of_direct h with
  | inl ha => rw [ha]; decide
  | inr ha => rw [ha]; decide

theorem span?_congr {t u : Instant} {days : Float}
    (h : (cutoff? t days).isSome = (cutoff? u days).isSome) : span? t days = span? u days := by
  rw [Condition.isSome_cutoff?, Condition.isSome_cutoff?, span?, span?] at h
  rw [span?, span?]
  cases hround : Binary64.round? (days * Cutoff.millisPerDay) with
  | none => rfl
  | some millis =>
    rw [hround] at h
    cases ht : t.before? millis <;> cases hu : u.before? millis <;>
      simp [Option.filter, ht, hu] at h ⊢

namespace Condition

def dayCount? (c : Condition) : Option Float :=
  match c.field, c.operator, c.operand with
  | some field, some operator, some operand =>
    match operator.comparator?, field.source with
    | some _, .daysSince _ => operand.number?
    | _, _ => none
  | _, _, _ => none

/-- Whether the cutoff of a condition is in range at both of two instants or at none of them. -/
def KeepsRange (t u : Instant) (c : Condition) : Prop :=
  ∀ days ∈ c.dayCount?, (cutoff? t days).isSome = (cutoff? u days).isSome

instance (t u : Instant) (c : Condition) : Decidable (c.KeepsRange t u) :=
  inferInstanceAs (Decidable (∀ days ∈ c.dayCount?, _))

theorem dayCount?_of_cutoff {field : Field} {operator : Operator} {operand : Operand}
    {comparator : Comparator} {a : Attribute} (hcomparator : operator.comparator? = some comparator)
    (ha : field.source = .daysSince a) :
    dayCount? ⟨some field, some operator, some operand⟩ = operand.number? := by
  simp [dayCount?, hcomparator, ha]

theorem dayCount?_of_field {c : Condition} (h : c.field ≠ some .inactiveDays) :
    c.dayCount? = none := by
  cases c.missing_or_complete with
  | inl missing => exact match_of_missing missing _ _
  | inr complete =>
    obtain ⟨field, operator, operand, rfl⟩ := complete
    cases field with
    | inactiveDays => exact absurd rfl h
    | spend | visits => cases hc : operator.comparator? <;> simp [dayCount?, hc, Field.source]

def Relates (R : Instant → Instant → Prop) (t u : Instant) (c : Condition) : Prop :=
  ∀ days ∈ c.dayCount?, Option.Rel R (cutoff? t days) (cutoff? u days)

section

variable {R : Instant → Instant → Prop} {t u : Instant}

theorem KeepsRange.relates {c : Condition} (h : c.KeepsRange t u)
    (hR : ∀ millis s s', t.before? millis = some s → u.before? millis = some s' → R s s') :
    c.Relates R t u := by
  intro days hdays
  have hspan := span?_congr (h days hdays)
  rw [cutoff?_eq_span?, cutoff?_eq_span?, ← hspan]
  cases ht : span? t days with
  | none => exact .none
  | some millis =>
    obtain ⟨s, hs⟩ := exists_before?_of_span? ht
    obtain ⟨s', hs'⟩ := exists_before?_of_span? (hspan ▸ ht)
    rw [Option.bind_some, Option.bind_some, hs, hs']
    exact .some (hR millis s s' hs hs')

theorem moves_compileComparison {field : Field} {comparator : Comparator} {operand : Operand}
    (h : ∀ a days, field.source = .daysSince a → operand.number? = some days →
      Option.Rel R (cutoff? t days) (cutoff? u days)) :
    Option.Rel (Filter.Moves R) (compileComparison t field comparator operand).toOption
      (compileComparison u field comparator operand).toOption := by
  rw [compileComparison, compileComparison]
  cases hx : operand.number? with
  | none => exact .none
  | some x =>
    cases ha : field.source with
    | direct a => exact .some (.compare (.number x))
    | daysSince a =>
      have hrelated := h a x ha hx
      dsimp only
      generalize cutoff? t x = cutoff, cutoff? u x = cutoff' at hrelated ⊢
      cases hrelated with
      | none => exact .none
      | some related => exact .some (.compare (.timestamp related))

theorem moves_compile {c : Condition} (h : c.Relates R t u) :
    Option.Rel (Filter.Moves R) (c.compile t).toOption (c.compile u).toOption := by
  cases c.missing_or_complete with
  | inl missing =>
    rw [compile_of_missing missing, compile_of_missing missing]
    exact .none
  | inr complete =>
    obtain ⟨field, operator, operand, rfl⟩ := complete
    simp only [compile]
    cases hcomparator : operator.comparator? with
    | none =>
      dsimp only
      rw [compileSearch]
      cases field.source with
      | direct a => exact .some (.pattern a _)
      | daysSince a => exact .none
    | some comparator =>
      apply moves_compileComparison
      intro a days ha hdays
      exact h days ((dayCount?_of_cutoff hcomparator ha).trans hdays)

theorem orderSince?_congr {last last' : Option Attribute.Value}
    (h : Option.Rel (Attribute.Value.Moves (AsFar t u)) last last') (millis : Int) :
    last.bind (orderSince? Instant.elapsedOrder t millis) =
      last'.bind (orderSince? Instant.elapsedOrder u millis) := by
  cases h with
  | none => rfl
  | some moved =>
    cases moved with
    | number x => rfl
    | timestamp hfar =>
      simp only [Option.bind_some, orderSince?, Instant.elapsedOrder_eq]
      rw [hfar]

theorem comparison?_congr {record record' : Record} (h : record.Moves (AsFar t u) record')
    {field : Field} {x : Float} (hspan : ∀ a, field.source = .daysSince a →
      span? t x = span? u x) (comparator : Comparator) :
    comparison? Instant.elapsedOrder t record field comparator x =
      comparison? Instant.elapsedOrder u record' field comparator x := by
  rw [comparison?, comparison?]
  cases ha : field.source with
  | direct a =>
    have hne : a ≠ .lastOrderDate := Field.ne_lastOrderDate_of_direct ha
    dsimp only
    rw [h.rest a hne]
  | daysSince a =>
    dsimp only
    rw [hspan a ha, Field.attribute_of_daysSince ha]
    simp only [orderSince?_congr h.date]

theorem search?_congr {record record' : Record} (h : record.Moves R record') (field : Field)
    (wanted : String) : search? record field wanted = search? record' field wanted := by
  rw [search?, search?]
  cases ha : field.source with
  | direct a =>
    have hne : a ≠ .lastOrderDate := Field.ne_lastOrderDate_of_direct ha
    dsimp only
    rw [h.rest a hne]
  | daysSince a => rfl

theorem meaning?_congr {record record' : Record} {c : Condition} (hc : c.KeepsRange t u)
    (h : record.Moves (AsFar t u) record') :
    c.meaning? Instant.elapsedOrder t record = c.meaning? Instant.elapsedOrder u record' := by
  cases c.missing_or_complete with
  | inl missing =>
    have ht : c.meaning? Instant.elapsedOrder t record = none := match_of_missing missing _ _
    have hu : c.meaning? Instant.elapsedOrder u record' = none := match_of_missing missing _ _
    rw [ht, hu]
  | inr complete =>
    obtain ⟨field, operator, operand, rfl⟩ := complete
    simp only [meaning?]
    cases hcomparator : operator.comparator? with
    | none => exact search?_congr h field operand.toText
    | some comparator =>
      apply Option.bind_congr
      intro x hx
      apply comparison?_congr h
      intro a ha
      exact span?_congr (hc x ((dayCount?_of_cutoff hcomparator ha).trans hx))

end

end Condition

namespace Node

variable {R : Instant → Instant → Prop} {t u : Instant}

theorem moves_group? {combinator : Combinator} {clauses clauses' : List Filter}
    (h : List.Forall₂ (Filter.Moves R) clauses clauses') :
    Option.Rel (Filter.Moves R) (Filter.group? combinator clauses)
      (Filter.group? combinator clauses') := by
  cases h with
  | nil => exact .none
  | cons related below => exact .some (.group (.cons related below))

mutual

theorem moves_compile? {node : Node} (h : ∀ c ∈ node.conditions, c.Relates R t u) :
    Option.Rel (Filter.Moves R) (node.compile? t) (node.compile? u) := by
  -- By structure of the tree: what a node is compiled to at two instants is the same, but for the
  -- timestamps, which are related if those of the conditions are.
  cases node with
  | condition c => exact Condition.moves_compile (h c (List.mem_singleton.2 rfl))
  | group combinator rules =>
    rw [compile?_group, compile?_group]
    exact moves_group? (moves_compileAll h)

theorem moves_compileAll {nodes : List Node} (h : ∀ c ∈ conditionsOfAll nodes, c.Relates R t u) :
    List.Forall₂ (Filter.Moves R) (compileAll t nodes) (compileAll u nodes) := by
  cases nodes with
  | nil => exact .nil
  | cons node rest =>
    rw [conditionsOfAll, List.forall_mem_append] at h
    have hnode := moves_compile? h.1
    have hrest := moves_compileAll h.2
    rw [compileAll, compileAll]
    generalize node.compile? t = clause, node.compile? u = clause' at hnode ⊢
    cases hnode with
    | none => exact hrest
    | some related => exact .cons related hrest

end

theorem moves_compile {node : Node} (h : ∀ c ∈ node.conditions, c.Relates R t u) :
    (node.compile t).Moves R (node.compile u) := by
  have hrelated := moves_compile? h
  rw [compile, compile]
  generalize node.compile? t = f, node.compile? u = f' at hrelated ⊢
  cases hrelated with
  | none => exact .matchAll
  | some related => exact related

mutual

theorem meaning?_congr {record record' : Record} {node : Node}
    (h : ∀ c ∈ node.conditions, c.meaning? Instant.elapsedOrder t record =
      c.meaning? Instant.elapsedOrder u record') :
    node.meaning? Instant.elapsedOrder t record = node.meaning? Instant.elapsedOrder u record' := by
  cases node with
  | condition c => exact h c (List.mem_singleton.2 rfl)
  | group combinator rules => rw [meaning?, meaning?, meanings_congr h]

theorem meanings_congr {record record' : Record} {nodes : List Node}
    (h : ∀ c ∈ conditionsOfAll nodes, c.meaning? Instant.elapsedOrder t record =
      c.meaning? Instant.elapsedOrder u record') :
    meanings Instant.elapsedOrder t record nodes =
      meanings Instant.elapsedOrder u record' nodes := by
  cases nodes with
  | nil => rfl
  | cons node rest =>
    rw [conditionsOfAll, List.forall_mem_append] at h
    rw [meanings, meanings, meaning?_congr h.1, meanings_congr h.2]

end

/-- Whether the cutoffs of all conditions are in range at both of two instants or at none of
them. -/
def KeepsRange (t u : Instant) (node : Node) : Prop :=
  ∀ c ∈ node.conditions, c.KeepsRange t u

instance (t u : Instant) (node : Node) : Decidable (node.KeepsRange t u) :=
  inferInstanceAs (Decidable (∀ c ∈ node.conditions, c.KeepsRange t u))

theorem compile_eq_of_no_days {node : Node}
    (h : ∀ c ∈ node.conditions, c.field ≠ some .inactiveDays) : node.compile t = node.compile u := by
  apply Filter.eq_of_moves
  apply moves_compile
  intro c hc days hdays
  rw [Condition.dayCount?_of_field (h c hc)] at hdays
  cases hdays

theorem selects_congr {node : Node} (h : node.KeepsRange t u) {record record' : Record}
    (hrecord : record.Moves (AsFar t u) record') :
    (node.compile t).selects record = (node.compile u).selects record' := by
  have hmeaning : node.meaning? Instant.elapsedOrder t record =
      node.meaning? Instant.elapsedOrder u record' :=
    meaning?_congr fun c hc => Condition.meaning?_congr (h c hc) hrecord
  rw [selects_compile, selects_compile, isTrueOf, isTrueOf, hmeaning]

/-- All that a filter has of the instant at which it is compiled are its timestamps, each of them
as far from that instant; so the filters of two instants select records alike that are the same but
for last orders as far away. Outside of leap seconds, everything moves by the time between the two
instants. -/
theorem compile_moves_with_now (t u : Instant) (node : Node) :
    ((∀ c ∈ node.conditions, c.field ≠ some .inactiveDays) → node.compile t = node.compile u) ∧
      (node.KeepsRange t u →
        (node.compile t).Moves (AsFar t u) (node.compile u) ∧
        (∀ record record', Record.Moves (AsFar t u) record record' →
          (node.compile t).selects record = (node.compile u).selects record') ∧
        (t.isLeap = false → u.isLeap = false →
          (node.compile t).Moves (Follows t u) (node.compile u) ∧
          ∀ record record',
            Record.Moves (fun last last' => last.isLeap = false ∧ Follows t u last last')
              record record' →
            (node.compile t).selects record = (node.compile u).selects record')) := by
  refine ⟨compile_eq_of_no_days, fun hrange => ⟨?_, fun record record' => selects_congr hrange,
    fun ht hu => ⟨?_, fun record record' hrecord => ?_⟩⟩⟩
  · apply moves_compile
    intro c hc
    exact (hrange c hc).relates fun millis s s' => Instant.asFar_of_before?
  · apply moves_compile
    intro c hc
    exact (hrange c hc).relates fun millis s s' => Instant.follows_of_before? ht hu
  · apply selects_congr hrange
    exact hrecord.imp fun last last' h => Instant.asFar_of_follows ht hu h.1 h.2

def noon : Instant := .ofParts 1717243200 0

def oneOClock : Instant := .ofParts 1717246800 0

def midnight : Instant := .ofParts 1717200000 0

def oneAtNight : Instant := .ofParts 1717203600 0

def bigSpender : Node :=
  .condition ⟨some .spend, some .greater, some (.number 5)⟩

theorem compile_moves_with_now_oneOClock :
    (∀ c ∈ bigSpender.conditions, c.field ≠ some .inactiveDays) ∧
      bigSpender.compile noon = bigSpender.compile oneOClock ∧
      moreThanHalfADay.KeepsRange noon oneOClock ∧
      (moreThanHalfADay.compile noon).Moves (Follows noon oneOClock)
        (moreThanHalfADay.compile oneOClock) ∧
      (moreThanHalfADay.compile noon).selects (Record.orderedAt midnight) =
        (moreThanHalfADay.compile oneOClock).selects (Record.orderedAt oneAtNight) := by
  have hspend : ∀ c ∈ bigSpender.conditions, c.field ≠ some .inactiveDays := by decide +kernel
  have hrange : moreThanHalfADay.KeepsRange noon oneOClock := by decide +kernel
  have hlast : midnight.isLeap = false ∧ Follows noon oneOClock midnight oneAtNight := by
    decide +kernel
  have hsame := (compile_moves_with_now noon oneOClock bigSpender).1 hspend
  have hmoves := (compile_moves_with_now noon oneOClock moreThanHalfADay).2 hrange
  obtain ⟨hfilter, hselects⟩ := hmoves.2.2 (by decide +kernel) (by decide +kernel)
  exact ⟨hspend, hsame, hrange, hfilter, hselects _ _ (Record.moves_orderedAt hlast)⟩

def leapMinute : Instant := .ofParts 1717243259 1500000000

def halfAMinuteLater : Instant := .ofParts 1717243290 0

def dayBeforeLater : Instant := .ofParts 1717156890 0

def dayBeforeLeap : Instant := .ofParts 1717156860 500000000

def moreThanADay : Node :=
  .condition ⟨some .inactiveDays, some .greater, some (.number 1)⟩

def hourAfterLeapNoon : Instant := .ofParts 1717246859 750000000

def hourAfterLeapOrder : Instant := .ofParts 1717203659 500000000

theorem compile_moreThanADay {now t : Instant} (h : cutoff? now 1 = some t) :
    moreThanADay.compile now = .compare .lastOrderDate Comparator.gt.swap (.timestamp t) := by
  have hnumber : (Operand.number 1).number? = some 1 := by decide +kernel
  have hcompile : moreThanADay.compile? now =
      some (.compare .lastOrderDate Comparator.gt.swap (.timestamp t)) :=
    Condition.predicate?_of_becomes (.cutoff rfl rfl hnumber h)
  rw [compile, hcompile, Option.getD_some]

theorem not_moves_leapMinute :
    ¬(moreThanADay.compile halfAMinuteLater).Moves (Follows halfAMinuteLater leapMinute)
      (moreThanADay.compile leapMinute) := by
  intro h
  have hlater : cutoff? halfAMinuteLater 1 = some dayBeforeLater := by decide +kernel
  have hleap : cutoff? leapMinute 1 = some dayBeforeLeap := by decide +kernel
  rw [compile_moreThanADay hlater, compile_moreThanADay hleap] at h
  cases h with
  | compare related =>
    cases related with
    | timestamp hfollows =>
      revert hfollows
      decide +kernel

/-- In leap seconds, nothing moves by the bare time between two instants: a cutoff seen from a leap
second comes a second late, and a last order in a leap second that moves out of it comes before the
cutoff that it was after. -/
theorem not_compile_moves_by_difference :
    (¬∀ (t u : Instant) (node : Node), node.KeepsRange t u →
      (node.compile t).Moves (Follows t u) (node.compile u)) ∧
    ¬∀ (t u : Instant) (node : Node) (record record' : Record), node.KeepsRange t u →
      Record.Moves (Follows t u) record record' →
      (node.compile t).selects record = (node.compile u).selects record' := by
  constructor
  · intro h
    have hrange : moreThanADay.KeepsRange halfAMinuteLater leapMinute := by decide +kernel
    exact not_moves_leapMinute (h _ _ _ hrange)
  · intro h
    have hrange : moreThanHalfADay.KeepsRange leapNoon hourAfterLeapNoon := by decide +kernel
    have hlast : Follows leapNoon hourAfterLeapNoon leapOrder hourAfterLeapOrder := by
      decide +kernel
    have hsame := h _ _ _ _ _ hrange (Record.moves_orderedAt hlast)
    revert hsame
    decide +kernel

end Node

end Rule

end Segmentation
