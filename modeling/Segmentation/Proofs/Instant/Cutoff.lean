import Segmentation.Proofs.Binary64.Rounding
import Segmentation.Proofs.Instant.Elapsed
import Segmentation.Proofs.Store.Answers

namespace Segmentation

namespace Instant

/-- Whether `t` lies so many milliseconds before `now`, on the time line as it is seen from there. -/
def IsAgo (now t : Instant) (millis : Int) : Prop :=
  now.placeFrom now - now.placeFrom t = 2 * (millis * nanosPerMilli)

/-- Whether the time line, from its first second to its last, goes so many milliseconds back from
`now`, or forward for a negative number. A leap second that `now` is in makes it a second longer. -/
def Reaches (now : Instant) (millis : Int) : Prop :=
  -8334601228800 * nanosPerSecond ≤ now.nanos - millis * nanosPerMilli ∧
    now.nanos - millis * nanosPerMilli <
      8210266876800 * nanosPerSecond + if now.isLeap then nanosPerSecond else 0

instance (now t : Instant) (millis : Int) : Decidable (now.IsAgo t millis) :=
  inferInstanceAs (Decidable (_ = _))

theorem isSome_ofParts?_iff {seconds : Int} {fraction : Nat} :
    (ofParts? seconds fraction).isSome ↔
      (-8334601228800 ≤ seconds ∧ seconds ≤ 8210266876799) ∧
        fraction < 2000000000 ∧ (1000000000 ≤ fraction → seconds % 60 = 59) := by
  rw [ofParts?]
  split
  · next h => exact iff_of_true rfl h
  · next h => exact iff_of_false Bool.false_ne_true h

theorem isSome_ofNanos?_iff {n : Int} :
    (ofNanos? n).isSome ↔
      -8334601228800 * nanosPerSecond ≤ n ∧ n < 8210266876800 * nanosPerSecond := by
  rw [ofNanos?, isSome_ofParts?_iff, nanosPerSecond]
  omega

theorem isSome_before?_iff {now : Instant} {millis : Int} :
    (now.before? millis).isSome ↔ now.Reaches millis := by
  have hl := now.least_le
  have hg := now.le_greatest
  have hf := now.fraction_lt
  have hlast := now.last_of_le
  rw [Reaches]
  cases hleap : now.isLeap with
  | false => rw [before?_of_not_leap hleap, isSome_ofNanos?_iff, if_neg (by simp), Int.add_zero]
  | true =>
    have hfraction : 1000000000 ≤ now.fraction := by simpa [isLeap] using hleap
    simp only [before?, hleap, Bool.not_true, Bool.false_or, decide_eq_true_eq, if_true,
      Bool.and_eq_true]
    split
    · -- the way leads out of the leap second backwards
      rw [isSome_ofNanos?_iff, nanos, nanosPerSecond, nanosPerMilli]
      omega
    · split
      · -- the way ends within the leap second
        next hwithin =>
        rw [nanosPerMilli] at hwithin
        rw [isSome_ofParts?_iff, nanos, nanosPerSecond, nanosPerMilli]
        omega
      · -- the way leads out of the leap second forwards
        next hbeyond =>
        rw [nanosPerMilli] at hbeyond
        rw [isSome_ofNanos?_iff, nanos, nanosPerSecond, nanosPerMilli]
        omega

theorem Reaches.natAbs_lt {now : Instant} {millis : Int} (h : now.Reaches millis) :
    millis.natAbs < 2 ^ 54 := by
  have hl := now.least_le
  have hg := now.le_greatest
  have hf := now.fraction_lt
  rw [Reaches, nanos, nanosPerSecond, nanosPerMilli] at h
  split at h <;> omega

namespace IsAgo

variable {now s t : Instant} {millis : Int}

theorem isLeap_and_seconds_eq (h : now.IsAgo t millis) (hleap : t.isLeap = true) :
    now.isLeap = true ∧ now.seconds = t.seconds := by
  -- Seen from elsewhere, what lies in a leap second has no place in whole nanoseconds.
  by_contra hne
  have hsame : (now.isLeap && now.seconds == t.seconds) = false := by simpa using hne
  have hodd : t.place = 2 * (t.seconds + 1) * nanosPerSecond - 1 := by rw [place, if_pos hleap]
  rw [IsAgo, placeFrom_self, placeFrom, hsame, if_neg Bool.false_ne_true, hodd] at h
  rw [nanosPerSecond] at h
  split at h <;> omega

theorem isLeap_eq_false (h : now.IsAgo t millis) (hnow : now.isLeap = false) : t.isLeap = false := by
  cases hleap : t.isLeap with
  | false => rfl
  | true =>
    rw [(h.isLeap_and_seconds_eq hleap).1] at hnow
    cases hnow

theorem nanos_eq (h : now.IsAgo t millis) :
    t.nanos = now.nanos - millis * nanosPerMilli -
      if now.isLeap ∧ now.seconds < t.seconds then nanosPerSecond else 0 := by
  have hplace := h
  rw [IsAgo, placeFrom_self] at hplace
  cases hleap : t.isLeap with
  | true =>
    obtain ⟨hnow, hseconds⟩ := h.isLeap_and_seconds_eq hleap
    have hself : now.placeFrom t = 2 * t.nanos := by simp [placeFrom, hnow, hseconds]
    rw [if_neg (by omega)]
    omega
  | false =>
    split
    · next hlater =>
      rw [placeFrom_of_lt hleap hlater.1 hlater.2] at hplace
      omega
    · next hearlier =>
      rw [not_and, Int.not_lt] at hearlier
      rw [placeFrom_of_le hleap hearlier] at hplace
      omega

theorem fraction_mod_eq (h : now.IsAgo t millis) : t.fraction % 1000000 = now.fraction % 1000000 := by
  have hnanos := h.nanos_eq
  rw [nanos, nanos, nanosPerSecond, nanosPerMilli] at hnanos
  split at hnanos <;> omega

theorem reaches (h : now.IsAgo t millis) : now.Reaches millis := by
  have hl := t.least_le
  have hg := t.le_greatest
  have hf := t.fraction_lt
  have hnanos := h.nanos_eq
  rw [nanos, nanosPerSecond] at hnanos
  rw [Reaches, nanosPerSecond]
  cases hleap : t.isLeap with
  | true =>
    obtain ⟨hnow, hseconds⟩ := h.isLeap_and_seconds_eq hleap
    rw [if_neg (by omega)] at hnanos
    rw [if_pos hnow]
    omega
  | false =>
    have hwhole : t.fraction < 1000000000 := by simpa [isLeap] using hleap
    split at hnanos
    · next hlater =>
      rw [if_pos hlater.1]
      omega
    · split <;> omega

theorem unique (hs : now.IsAgo s millis) (ht : now.IsAgo t millis) : s = t := by
  have hplace : now.placeFrom s = now.placeFrom t := by
    rw [IsAgo] at hs ht
    omega
  rw [← compare_eq_eq_iff, compare_placeFrom ht.isLeap_and_seconds_eq, hplace]
  exact Std.ReflOrd.compare_self

end IsAgo

theorem before?_eq_some_iff {now t : Instant} {millis : Int} :
    now.before? millis = some t ↔ now.IsAgo t millis := by
  have hago {s : Instant} (h : now.before? millis = some s) : now.IsAgo s millis := by
    rw [IsAgo, placeFrom_self, (placeFrom_of_before? h).1]
    omega
  constructor
  · exact hago
  · intro h
    obtain ⟨s, hs⟩ := Option.isSome_iff_exists.1 (isSome_before?_iff.2 h.reaches)
    rw [hs, (hago hs).unique h]

end Instant

open Binary64 (RoundsTo)
open Instant (nanosPerMilli nanosPerSecond)

theorem Cutoff.millisPerDay_eq : millisPerDay = 86400000 := by decide +kernel

theorem cutoff?_eq_some_iff {now t : Instant} {days : Float} :
    cutoff? now days = some t ↔
      ∃ millis, RoundsTo (days * 86400000) millis ∧ now.IsAgo t millis := by
  simp only [cutoff?_eq, Cutoff.millisPerDay_eq, Option.bind_eq_some_iff,
    Binary64.round?_eq_some_iff, Instant.before?_eq_some_iff]

theorem isSome_cutoff?_iff {now : Instant} {days : Float} :
    (cutoff? now days).isSome ↔
      ∃ millis, RoundsTo (days * 86400000) millis ∧ now.Reaches millis := by
  simp only [Option.isSome_iff_exists, cutoff?_eq_some_iff, ← Instant.isSome_before?_iff,
    Instant.before?_eq_some_iff]
  constructor
  · rintro ⟨t, millis, hmillis, ht⟩
    exact ⟨millis, hmillis, t, ht⟩
  · rintro ⟨millis, hmillis, t, ht⟩
    exact ⟨t, millis, hmillis, ht⟩

/-- The days have a number of milliseconds unless their product overflows, and there is a cutoff
exactly where the time line goes as far back. The cutoff is the one instant that lies so many
milliseconds before now, and it keeps what now has below a millisecond. A number of milliseconds
anywhere near the end of a word of 64 bits has no cutoff. -/
theorem cutoff_exact_or_absent (now : Instant) (days : Float) :
    ((∃ millis, RoundsTo (days * 86400000) millis) ↔
      Binary64.isFinite (days * 86400000) = true) ∧
    ((cutoff? now days).isSome ↔
      ∃ millis, RoundsTo (days * 86400000) millis ∧ now.Reaches millis) ∧
    (∀ t, cutoff? now days = some t ↔
      ∃ millis, RoundsTo (days * 86400000) millis ∧ now.IsAgo t millis) ∧
    (∀ t millis, cutoff? now days = some t → RoundsTo (days * 86400000) millis →
      t.fraction % 1000000 = now.fraction % 1000000 ∧
      t.nanos = now.nanos - millis * nanosPerMilli -
        (if now.isLeap ∧ now.seconds < t.seconds then nanosPerSecond else 0) ∧
      (now.isLeap = false → t.isLeap = false)) ∧
    ∀ millis, RoundsTo (days * 86400000) millis → 2 ^ 54 ≤ millis.natAbs →
      cutoff? now days = none := by
  refine ⟨Binary64.exists_roundsTo_iff, isSome_cutoff?_iff, fun t => cutoff?_eq_some_iff, ?_, ?_⟩
  · intro t millis ht hmillis
    obtain ⟨millis', hmillis', hago⟩ := cutoff?_eq_some_iff.1 ht
    cases hmillis.unique hmillis'
    exact ⟨hago.fraction_mod_eq, hago.nanos_eq, hago.isLeap_eq_false⟩
  · intro millis hmillis hfar
    rw [← Option.not_isSome_iff_eq_none, isSome_cutoff?_iff]
    rintro ⟨millis', hmillis', hreaches⟩
    cases hmillis.unique hmillis'
    have hnear := hreaches.natAbs_lt
    omega

namespace Cutoff

def noon : Instant := (Instant.ofParts? 1717243200 0).getD default

def endOf2016 : Instant := (Instant.ofParts? 1483228799 1700500000).getD default

def newYearsNoon : Instant := (Instant.ofParts? 1483271999 700500000).getD default

end Cutoff

/-- Days of exactly one millisecond more than a word of 64 bits holds have no cutoff. A negative
half of a day leads forward, and out of the leap second. -/
theorem cutoff_exact_or_absent_edge :
    (RoundsTo (106751991167.30064 * 86400000) (2 ^ 63) ∧
      cutoff? Cutoff.noon 106751991167.30064 = none) ∧
    RoundsTo (-0.5 * 86400000) (-43200000) ∧
      cutoff? Cutoff.endOf2016 (-0.5) = some Cutoff.newYearsNoon := by
  have hedge : RoundsTo (106751991167.30064 * 86400000) (2 ^ 63) :=
    Binary64.round?_eq_some_iff.1 (by decide +kernel)
  have hback : RoundsTo (-0.5 * 86400000) (-43200000) :=
    Binary64.round?_eq_some_iff.1 (by decide +kernel)
  obtain ⟨-, -, -, -, habsent⟩ := cutoff_exact_or_absent Cutoff.noon 106751991167.30064
  obtain ⟨-, -, hexact, -⟩ := cutoff_exact_or_absent Cutoff.endOf2016 (-0.5)
  refine ⟨⟨hedge, habsent _ hedge (by decide)⟩, hback, (hexact _).2 ⟨_, hback, ?_⟩⟩
  decide

end Segmentation
