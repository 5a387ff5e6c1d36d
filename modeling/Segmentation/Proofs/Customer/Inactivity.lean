import Segmentation.Proofs.Instant.Elapsed
import Segmentation.Proofs.Rule.Conditions
import Segmentation.Proofs.Store.Answers

namespace Segmentation

open Rule (Operator Operand)

namespace Instant

def nanosOfDays (n : Nat) : Int :=
  n * millisPerDay * nanosPerMilli

theorem parts_of_before?_days {now t : Instant} {n : Nat}
    (h : now.before? (n * millisPerDay) = some t) :
    (t.seconds = now.seconds - 86400 * n ∧ t.fraction = now.fraction ∧
        (now.isLeap = true → n = 0)) ∨
      now.isLeap = true ∧ 0 < n ∧ t.seconds = now.seconds + 1 - 86400 * n ∧
        t.fraction + 1000000000 = now.fraction := by
  have hnow := now.fraction_lt
  simp only [before?] at h
  split at h
  · next hway =>
    have hnanos := nanos_of_ofNanos? h
    have hleap := isLeap_of_ofNanos? h
    simp only [isLeap, Bool.or_eq_true, Bool.not_eq_true', decide_eq_false_iff_not,
      decide_eq_true_eq] at hway hleap ⊢
    rw [millisPerDay] at hway hnanos
    rw [nanos, nanos, nanosPerSecond, nanosPerMilli] at hnanos
    omega
  · next hway =>
    simp only [isLeap, Bool.or_eq_true, Bool.not_eq_true', decide_eq_false_iff_not,
      decide_eq_true_eq] at hway
    have hn : n = 0 := by
      rw [millisPerDay] at hway
      omega
    subst hn
    split at h
    · obtain ⟨hseconds, hfraction⟩ := parts_of_ofParts? h
      left
      omega
    · next hshort =>
      simp only [Bool.and_eq_true, decide_eq_true_eq] at hshort
      omega

section Cutoff

variable {now last t : Instant} {n : Nat} (hle : ¬now.IsBefore last)
  (hback : now.before? (n * millisPerDay) = some t)

include hle hback

theorem isBefore_of_lt_since
    (h : nanosOfDays n + nanosPerMilli ≤ (now.since last).natAbs) : last.IsBefore t := by
  have hnow := now.fraction_lt
  have hlast := last.fraction_lt
  have hmin := now.last_of_le
  have hmin' := last.last_of_le
  have hor : nanosOfDays n + nanosPerMilli ≤ now.since last ∨
      nanosOfDays n + nanosPerMilli ≤ -now.since last := by omega
  clear h
  have hparts := parts_of_before?_days hback
  simp only [since, Bool.and_eq_true, decide_eq_true_eq] at hor
  simp only [isLeap, decide_eq_true_eq, secondOfDay, nanos, nanosPerSecond, nanosOfDays,
    nanosPerMilli, millisPerDay] at hor hparts
  simp only [IsBefore] at hle ⊢
  split at hor
  · omega
  · split at hor <;> omega

theorem le_since_of_not_isBefore (h : ¬t.IsBefore last) :
    nanosOfDays n - nanosPerSecond ≤ now.since last := by
  have hnow := now.fraction_lt
  have hlast := last.fraction_lt
  have hmin := now.last_of_le
  have hmin' := last.last_of_le
  have hparts := parts_of_before?_days hback
  simp only [since, Bool.and_eq_true, decide_eq_true_eq]
  simp only [isLeap, decide_eq_true_eq, secondOfDay, nanos, nanosPerSecond, nanosOfDays,
    nanosPerMilli, millisPerDay] at hparts ⊢
  simp only [IsBefore] at hle h
  split
  · omega
  · split <;> omega

end Cutoff

theorem IsBefore.not_swap {s t : Instant} (h : s.IsBefore t) : ¬t.IsBefore s := by
  simp only [IsBefore] at h ⊢
  omega

theorem lt_since_of_isBefore {now last t : Instant} {n : Nat}
    (hback : now.before? (n * millisPerDay) = some t) (hnow : now.isLeap = false)
    (hlast : last.isLeap = false) (h : last.IsBefore t) : nanosOfDays n < now.since last := by
  rw [before?_of_not_leap hnow] at hback
  have hleap := isLeap_of_ofNanos? hback
  have hnanos := nanos_of_ofNanos? hback
  rw [since_of_not_leap hnow hlast, nanosOfDays]
  rw [isLeap, decide_eq_false_iff_not] at hleap hlast
  rw [IsBefore] at h
  have hlt : last.nanos < t.nanos := by
    rw [nanos, nanos, nanosPerSecond]
    omega
  omega

end Instant

namespace Customer

open Instant (nanosOfDays nanosPerMilli nanosPerSecond)

theorem exists_inactiveDays {c : Customer} {last : Instant} (h : c.lastOrder = some last)
    (now : Instant) : ∃ shown, c.inactiveDays now = some shown ∧ 0 ≤ shown ∧
      ∀ n : Nat, (n : Int) < shown ↔ nanosOfDays n + nanosPerMilli ≤ (now.since last).natAbs := by
  rw [inactiveDays, h]
  refine ⟨(millisBetween last now + Instant.millisPerDay - 1) / Instant.millisPerDay, rfl, ?_,
    fun n => ?_⟩
  · have hmillis : 0 ≤ millisBetween last now := Int.natCast_nonneg _
    rw [Instant.millisPerDay]
    omega
  · have hmillis : millisBetween last now = ((now.since last).natAbs / 1000000 : Nat) := by
      rw [millisBetween, Int.natAbs_tdiv]
      rfl
    rw [hmillis, nanosOfDays, nanosPerMilli, Instant.millisPerDay]
    omega

/-- Whether a customer meets a rule on the days without an order. -/
def Meets (c : Customer) (now : Instant) (operator : Operator) (operand : Operand) : Prop :=
  ((Rule.Node.condition ⟨some .inactiveDays, some operator, some operand⟩).compile now).selects
    c.record

section Rule

variable {c : Customer} {now last t : Instant} {operand : Operand} {days : Float}
  (hlast : c.lastOrder = some last) (hdays : operand.number? = some days)
  (hcutoff : cutoff? now days = some t)

include hlast hdays hcutoff

theorem meets_iff {operator : Operator} {comparator : Rule.Comparator}
    (h : operator.comparator? = some comparator) :
    c.Meets now operator operand ↔ comparator.swap.holds (compare last t) = true := by
  have hcompile := Rule.Condition.predicate?_of_becomes
    (.cutoff h (show Rule.Field.inactiveDays.source = .daysSince .lastOrderDate from rfl) hdays
      hcutoff)
  rw [Meets, Rule.Node.compile]
  change ((Rule.Condition.predicate? now _).getD .matchAll).selects c.record = true ↔ _
  rw [hcompile]
  change Filter.compareHolds comparator.swap (c.lastOrder.map .timestamp) (.timestamp t) = true ↔ _
  rw [hlast]
  exact Iff.rfl

theorem meets_greater_iff : c.Meets now .greater operand ↔ last.IsBefore t := by
  rw [meets_iff hlast hdays hcutoff rfl, ← Instant.compare_eq_lt_iff]
  exact beq_iff_eq

theorem meets_lessOrEqual_iff : c.Meets now .lessOrEqual operand ↔ ¬last.IsBefore t := by
  rw [meets_iff hlast hdays hcutoff rfl, ← Instant.compare_eq_lt_iff]
  exact bne_iff_ne

theorem meets_greaterOrEqual_iff : c.Meets now .greaterOrEqual operand ↔ ¬t.IsBefore last := by
  rw [meets_iff hlast hdays hcutoff rfl, ← Instant.compare_eq_lt_iff,
    Std.OrientedOrd.eq_swap (a := t)]
  cases compare last t <;> decide

end Rule

/-- A customer of whom more days are shown meets the rule for more days. One who meets that rule is
shown at least those days, and shown exactly those only in the first millisecond after them; a leap
second may bring the time since the order down by up to a second. The rule for at most those days
is met by the others, and who meets the rule for at least those days is shown at least those. -/
theorem inactiveDays_near_rule {c : Customer} {now last t : Instant} {operand : Operand} {n : Nat}
    (hlast : c.lastOrder = some last) (hle : ¬now.IsBefore last)
    (hoperand : operand.number? = some (Decimal.floatOfInt n))
    (hcutoff : cutoff? now (Decimal.floatOfInt n) = some t)
    (hback : now.before? (n * Instant.millisPerDay) = some t) :
    ∃ shown, c.inactiveDays now = some shown ∧
      (n < shown → c.Meets now .greater operand) ∧
      (c.Meets now .greater operand →
        n ≤ shown ∧
        (shown = n ↔ (now.since last).natAbs < nanosOfDays n + nanosPerMilli) ∧
        nanosOfDays n - nanosPerSecond ≤ now.since last ∧
        (now.isLeap = false → last.isLeap = false → nanosOfDays n < now.since last)) ∧
      (c.Meets now .lessOrEqual operand ↔ ¬c.Meets now .greater operand) ∧
      (c.Meets now .greaterOrEqual operand → n ≤ shown) := by
  obtain ⟨shown, hshown, hnonneg, hlt⟩ := exists_inactiveDays hlast now
  -- A second less than some days is still more than the days before.
  have hleast (h : ¬t.IsBefore last) : n ≤ shown := by
    have hsince := Instant.le_since_of_not_isBefore hle hback h
    cases n with
    | zero => exact hnonneg
    | succ m =>
      have hm := (hlt m).2
      rw [nanosOfDays, nanosPerMilli, Instant.millisPerDay] at hm hsince
      rw [nanosPerSecond] at hsince
      omega
  refine ⟨shown, hshown, ?_, ?_, ?_, ?_⟩
  · intro h
    rw [meets_greater_iff hlast hoperand hcutoff]
    exact Instant.isBefore_of_lt_since hle hback ((hlt n).1 h)
  · rw [meets_greater_iff hlast hoperand hcutoff]
    intro h
    have hn := hleast h.not_swap
    refine ⟨hn, ?_, Instant.le_since_of_not_isBefore hle hback h.not_swap, ?_⟩
    · rw [← Int.not_le, ← hlt n]
      omega
    · intro hnow hleap
      exact Instant.lt_since_of_isBefore hback hnow hleap h
  · rw [meets_lessOrEqual_iff hlast hoperand hcutoff, meets_greater_iff hlast hoperand hcutoff]
  · rw [meets_greaterOrEqual_iff hlast hoperand hcutoff]
    exact hleast

instance (c : Customer) (now : Instant) (operator : Operator) (operand : Operand) :
    Decidable (c.Meets now operator operand) :=
  inferInstanceAs (Decidable (_ = true))

def orderedAt (last : Instant) : Customer where
  id := default
  owner := "shop"
  name := "Ada"
  email := "ada@example.com"
  spend := 0
  visits := 1
  lastOrder := some last
  createdAt := default

def midnight : Instant := (Instant.ofParts? 1717286400 0).getD default

def dayAndABit : Instant := { seconds := 1717199999, fraction := 999500000 }

/-- A day and half a millisecond after the order, one day is shown, and the order is more than one
day ago. -/
theorem inactiveDays_near_rule_dayAndABit :
    let c := orderedAt dayAndABit
    let t := (Instant.ofNanos? 1717200000000000000).getD default
    (c.lastOrder = some dayAndABit ∧ ¬midnight.IsBefore dayAndABit ∧
      (Operand.text " 1 ").number? = some (Decimal.floatOfInt 1) ∧
      cutoff? midnight (Decimal.floatOfInt 1) = some t ∧
      midnight.before? (1 * Instant.millisPerDay) = some t) ∧
    c.inactiveDays midnight = some 1 ∧ c.Meets midnight .greater (.text " 1 ") := by
  intro c t
  have hle : ¬midnight.IsBefore dayAndABit := by
    rw [Instant.IsBefore]
    decide
  have hoperand : (Operand.text " 1 ").number? = some (Decimal.floatOfInt 1) := by decide +kernel
  have hcutoff : cutoff? midnight (Decimal.floatOfInt 1) = some t := by decide +kernel
  have hback : midnight.before? (1 * Instant.millisPerDay) = some t := by decide +kernel
  have hmeets : c.Meets midnight .greater (.text " 1 ") := by decide +kernel
  obtain ⟨shown, hshown, -, hnear, -⟩ :=
    inactiveDays_near_rule (c := c) (n := 1) rfl hle hoperand hcutoff hback
  obtain ⟨-, hexact, -⟩ := hnear hmeets
  rw [hexact.2 (by decide)] at hshown
  exact ⟨⟨rfl, hle, hoperand, hcutoff, hback⟩, hshown, hmeets⟩

/-- An order in the leap second at the end of 2016, and the second day of 2017. -/
def leapMidnight : Instant := { seconds := 1483228799, fraction := 1700000000 }

def secondOfJanuary : Instant := { seconds := 1483315200, fraction := 200000000 }

/-- By the bare difference of instants it is half a second less than a day since the order, and one
day is shown, but the order lies before the cutoff of one day. -/
theorem inactiveDays_not_near_in_leap_second :
    ¬∀ (c : Customer) (now last t : Instant) (operand : Operand) (n : Nat) (shown : Int),
      c.lastOrder = some last → ¬now.IsBefore last →
      operand.number? = some (Decimal.floatOfInt n) →
      cutoff? now (Decimal.floatOfInt n) = some t →
      now.before? (n * Instant.millisPerDay) = some t → c.inactiveDays now = some shown →
      c.Meets now .greater operand →
      n < shown ∨ shown = n ∧ 0 < now.since last - nanosOfDays n ∧
        now.since last - nanosOfDays n < nanosPerMilli := by
  intro h
  have hle : ¬secondOfJanuary.IsBefore leapMidnight := by
    rw [Instant.IsBefore]
    decide
  have hnear := h (orderedAt leapMidnight) secondOfJanuary leapMidnight
    ((Instant.ofNanos? 1483228800200000000).getD default) (.number (Decimal.floatOfInt 1)) 1 1 rfl
    hle (by decide +kernel) (by decide +kernel) (by decide +kernel) (by decide +kernel)
    (by decide +kernel)
  revert hnear
  decide

end Customer

end Segmentation
