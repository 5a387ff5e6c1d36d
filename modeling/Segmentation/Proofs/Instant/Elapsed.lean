import Segmentation.Compilation

namespace Segmentation

namespace Instant

/-- The place of an instant on the time line in half nanoseconds. Leap seconds have no length
there, so what lies in one is half a nanosecond before the second after it. -/
def place (t : Instant) : Int :=
  if t.isLeap then 2 * (t.seconds + 1) * nanosPerSecond - 1 else 2 * t.nanos

/-- The place of an instant as seen from `now`. If that is in a leap second, then this one leap
second has its length. -/
def placeFrom (now t : Instant) : Int :=
  if now.isLeap && now.seconds == t.seconds then 2 * t.nanos
  else if now.isLeap && decide (now.seconds < t.seconds) then t.place + 2 * nanosPerSecond
  else t.place

/-- How the difference of two instants compares with some milliseconds. -/
def differenceOrder (now last : Instant) (millis : Int) : Ordering :=
  compare (now.since last) (millis * nanosPerMilli)

/-- How the time elapsed from `last` to `now` compares with some milliseconds. Where a leap second
is involved, it is the way between their places that counts. -/
def elapsedOrder (now last : Instant) (millis : Int) : Ordering :=
  if now.isLeap || last.isLeap then
    compare (now.placeFrom now - now.placeFrom last) (2 * (millis * nanosPerMilli))
  else differenceOrder now last millis

theorem compare_int_congr {a b c d : Int} (hlt : a < b ↔ c < d) (heq : a = b ↔ c = d) :
    compare a b = compare c d := by
  simp only [compare, compareOfLessAndEq, hlt, heq]

theorem compare_eq_of_fraction {s t : Instant} {a b : Int}
    (hlt : s.seconds < t.seconds ∨ s.seconds = t.seconds ∧ s.fraction < t.fraction ↔ a < b)
    (heq : s.seconds = t.seconds ∧ s.fraction = t.fraction ↔ a = b) :
    compare s t = compare a b := by
  change (compare s.seconds t.seconds).then (compare s.fraction t.fraction) = _
  simp only [compare, compareOfLessAndEq, ← hlt, ← heq]
  rcases Int.lt_trichotomy s.seconds t.seconds with h | h | h
  · simp [h]
  · simp only [h, Int.lt_irrefl, false_or, true_and, if_false, if_true, Ordering.then]
  · have hn : ¬ s.seconds < t.seconds := by omega
    have hne : s.seconds ≠ t.seconds := by omega
    simp [hn, hne]

theorem isLeap_of_ofNanos? {n : Int} {t : Instant} (h : ofNanos? n = some t) :
    t.isLeap = false := by
  obtain ⟨-, hf⟩ := parts_of_ofParts? h
  rw [isLeap, hf, nanosPerSecond, decide_eq_false_iff_not]
  omega

theorem ofNanos?_eq_none {n : Int} (h : 8400000000000000000000 ≤ n.natAbs) : ofNanos? n = none := by
  rw [ofNanos?, ofParts?, dif_neg]
  rintro ⟨⟨hl, hg⟩, -⟩
  rw [nanosPerSecond] at hl hg
  omega

theorem placeFrom_self (now : Instant) : now.placeFrom now = 2 * now.nanos := by
  cases h : now.isLeap <;> simp [placeFrom, place, h]

theorem placeFrom_of_le {now t : Instant} (ht : t.isLeap = false)
    (h : now.isLeap = true → t.seconds ≤ now.seconds) : now.placeFrom t = 2 * t.nanos := by
  cases hn : now.isLeap with
  | false => simp [placeFrom, place, hn, ht]
  | true =>
    have hle : ¬ now.seconds < t.seconds := by have := h hn; omega
    simp [placeFrom, place, hn, ht, hle]

theorem placeFrom_of_lt {now t : Instant} (ht : t.isLeap = false) (hn : now.isLeap = true)
    (h : now.seconds < t.seconds) : now.placeFrom t = 2 * t.nanos + 2 * nanosPerSecond := by
  have hne : now.seconds ≠ t.seconds := by omega
  simp [placeFrom, place, hn, ht, h, hne]

theorem elapsedOrder_eq (now last : Instant) (millis : Int) :
    elapsedOrder now last millis =
      compare (now.placeFrom now - now.placeFrom last) (2 * (millis * nanosPerMilli)) := by
  rw [elapsedOrder]
  split
  · rfl
  · next h =>
    simp only [Bool.or_eq_true, not_or, Bool.not_eq_true] at h
    have hp : now.placeFrom last = 2 * last.nanos :=
      placeFrom_of_le h.2 fun hleap => by simp [h.1] at hleap
    rw [differenceOrder, since_of_not_leap h.1 h.2, placeFrom_self, hp]
    apply compare_int_congr <;> omega

theorem compare_placeFrom {now s t : Instant}
    (h : t.isLeap = true → now.isLeap = true ∧ now.seconds = t.seconds) :
    compare s t = compare (now.placeFrom s) (now.placeFrom t) := by
  have hs := s.fraction_lt
  have ht := t.fraction_lt
  simp only [isLeap, decide_eq_true_eq] at h
  apply compare_eq_of_fraction
  all_goals
    simp only [placeFrom, place, nanos, nanosPerSecond, isLeap, Bool.and_eq_true, beq_iff_eq,
      decide_eq_true_eq]
    repeat' split
    all_goals omega

theorem placeFrom_of_before? {now t : Instant} {millis : Int} (h : now.before? millis = some t) :
    now.placeFrom t = 2 * (now.nanos - millis * nanosPerMilli) ∧
      (t.isLeap = true → now.isLeap = true ∧ now.seconds = t.seconds) := by
  have hn := now.fraction_lt
  simp only [before?] at h
  split at h
  · -- the way leads out of a leap second backwards, or starts outside of one
    next hway =>
    have hl := isLeap_of_ofNanos? h
    have ht := nanos_of_ofNanos? h
    refine ⟨?_, fun hleap => by simp [hl] at hleap⟩
    rw [placeFrom_of_le hl, ht]
    intro hleap
    simp only [hleap, Bool.not_true, Bool.false_or, decide_eq_true_eq] at hway
    rw [nanos, nanos, nanosPerSecond, nanosPerMilli] at ht
    omega
  · next hway =>
    simp only [Bool.or_eq_true, Bool.not_eq_true', decide_eq_true_eq, not_or,
      Bool.not_eq_false] at hway
    obtain ⟨hleap, hmillis⟩ := hway
    have hf : 1000000000 ≤ now.fraction := by simpa [isLeap] using hleap
    split at h
    · next hwithin =>
      -- the way ends within the leap second
      simp only [Bool.and_eq_true, decide_eq_true_eq] at hwithin
      rw [nanosPerMilli] at h hwithin
      obtain ⟨hs, hfrac⟩ := parts_of_ofParts? h
      refine ⟨?_, fun _ => ⟨hleap, hs.symm⟩⟩
      simp only [placeFrom, hleap, hs, beq_self_eq_true, Bool.and_self, if_true, nanos, hfrac,
        nanosPerMilli]
      omega
    · next hbeyond =>
      -- the way leads out of the leap second forwards
      simp only [Bool.and_eq_true, decide_eq_true_eq] at hbeyond
      rw [nanosPerMilli] at h hbeyond
      have hl := isLeap_of_ofNanos? h
      have ht := nanos_of_ofNanos? h
      have hlt : now.seconds < t.seconds := by
        have hb := t.fraction_lt
        simp only [isLeap, decide_eq_false_iff_not] at hl
        rw [nanos, nanos, nanosPerSecond] at ht
        omega
      refine ⟨?_, fun hleap => by simp [hl] at hleap⟩
      rw [placeFrom_of_lt hl hleap hlt, ht, nanosPerMilli]
      omega

theorem compare_of_before? {now last t : Instant} {millis : Int}
    (h : now.before? millis = some t) : compare last t = (elapsedOrder now last millis).swap := by
  obtain ⟨hplace, hleap⟩ := placeFrom_of_before? h
  rw [compare_placeFrom hleap, hplace, elapsedOrder_eq, placeFrom_self, Std.OrientedOrd.eq_swap]
  congr 1
  apply compare_int_congr <;> omega

theorem before?_eq_none {t : Instant} {millis : Int} (h : 9000000000000000000 ≤ millis.natAbs) :
    t.before? millis = none := by
  have hl := t.least_le
  have hg := t.le_greatest
  have hf := t.fraction_lt
  have hn : 8400000000000000000000 ≤ (t.nanos - millis * nanosPerMilli).natAbs ∧
      8400000000000000000000 ≤ (t.nanos - nanosPerSecond - millis * nanosPerMilli).natAbs := by
    rw [nanos, nanosPerMilli, nanosPerSecond]
    omega
  simp only [before?]
  split
  · exact ofNanos?_eq_none hn.1
  · next hway =>
    have hback : ¬ (-1000 < millis) := by
      simp only [Bool.or_eq_true, decide_eq_true_eq, not_or] at hway
      omega
    simp only [hback, decide_false, Bool.false_and, Bool.false_eq_true, if_false]
    exact ofNanos?_eq_none hn.2

end Instant

namespace Cutoff

theorem span?_clampInt {millis : Int} (h : millis.natAbs ≤ Word.maxInt) :
    span? (Word.clampInt millis) = some millis := by
  have hc : Word.clampInt millis = millis := by
    rw [Word.maxInt] at h
    rw [Word.clampInt, Word.minInt, Word.maxInt]
    omega
  rw [hc, span?, if_pos h]

theorem natAbs_of_span?_clampInt {millis m : Int} (h : ¬ millis.natAbs ≤ Word.maxInt)
    (hs : span? (Word.clampInt millis) = some m) : 9000000000000000000 ≤ m.natAbs := by
  rw [span?, Option.ite_none_right_eq_some, Option.some.injEq] at hs
  rw [← hs.2, Word.clampInt, Word.minInt, Word.maxInt]
  rw [Word.maxInt] at h
  omega

end Cutoff

theorem cutoff?_eq (now : Instant) (days : Float) :
    cutoff? now days = (Binary64.round? (days * Cutoff.millisPerDay)).bind now.before? := by
  rw [cutoff?]
  cases Binary64.round? (days * Cutoff.millisPerDay) with
  | none => rfl
  | some millis =>
    change (if millis.natAbs ≤ -Word.minInt then
      (Cutoff.span? (Word.clampInt millis)).bind now.before? else none) = now.before? millis
    by_cases h : millis.natAbs ≤ Word.maxInt
    · have hmin : millis.natAbs ≤ -Word.minInt := by
        rw [Word.maxInt] at h
        rw [Word.minInt]
        omega
      rw [if_pos hmin, Cutoff.span?_clampInt h]
      rfl
    · have hfar : 9000000000000000000 ≤ millis.natAbs := by
        rw [Word.maxInt] at h
        omega
      rw [Instant.before?_eq_none hfar]
      split
      · cases hs : Cutoff.span? (Word.clampInt millis) with
        | none => rfl
        | some m => exact Instant.before?_eq_none (Cutoff.natAbs_of_span?_clampInt h hs)
      · rfl

end Segmentation
