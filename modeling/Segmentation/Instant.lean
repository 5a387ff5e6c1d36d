namespace Segmentation

structure Instant where
  /-- Whole seconds since 1970-01-01T00:00:00Z, leap seconds not counted. -/
  seconds : Int
  fraction : Nat
  least_le : -8334601228800 ≤ seconds := by decide
  le_greatest : seconds ≤ 8210266876799 := by decide
  fraction_lt : fraction < 2000000000 := by decide
  last_of_le : 1000000000 ≤ fraction → seconds % 60 = 59 := by decide
  deriving DecidableEq, Repr

namespace Instant

def ofParts? (seconds : Int) (fraction : Nat) : Option Instant :=
  if h : (-8334601228800 ≤ seconds ∧ seconds ≤ 8210266876799) ∧
      fraction < 2000000000 ∧ (1000000000 ≤ fraction → seconds % 60 = 59) then
    some ⟨seconds, fraction, h.1.1, h.1.2, h.2.1, h.2.2⟩
  else none

theorem ofParts?_parts (t : Instant) : ofParts? t.seconds t.fraction = some t := by
  rw [ofParts?, dif_pos ⟨⟨t.least_le, t.le_greatest⟩, t.fraction_lt, t.last_of_le⟩]

theorem parts_of_ofParts? {seconds : Int} {fraction : Nat} {t : Instant}
    (h : ofParts? seconds fraction = some t) : t.seconds = seconds ∧ t.fraction = fraction := by
  rw [ofParts?] at h
  split at h
  · simp only [Option.some.injEq] at h
    rw [← h]
    exact ⟨rfl, rfl⟩
  · simp at h

def nanosPerSecond : Int := 1000000000

def nanosPerMilli : Int := 1000000

def millisPerDay : Int := 86400000

def isLeap (t : Instant) : Bool :=
  1000000000 ≤ t.fraction

/-- Nanoseconds since 1970-01-01T00:00:00Z; those of a leap second are those of the second after
it, too. -/
def nanos (t : Instant) : Int :=
  t.seconds * nanosPerSecond + t.fraction

/-- The instant with so many nanoseconds that is not in a leap second. -/
def ofNanos? (nanos : Int) : Option Instant :=
  ofParts? (nanos / nanosPerSecond) (nanos % nanosPerSecond).toNat

theorem nanos_of_ofNanos? {n : Int} {t : Instant} (h : ofNanos? n = some t) : t.nanos = n := by
  obtain ⟨hs, hf⟩ := parts_of_ofParts? h
  rw [nanos, hs, hf, nanosPerSecond]
  omega

instance : Inhabited Instant := ⟨{ seconds := 0, fraction := 0 }⟩

instance : Ord Instant :=
  ⟨fun s t => (compare s.seconds t.seconds).then (compare s.fraction t.fraction)⟩

def secondOfDay (t : Instant) : Int :=
  t.seconds % 86400

/-- The time from `s` to `t` in nanoseconds. A leap second has its own length where the other
instant is at a later time of day; elsewhere it is as good as the second after it. -/
def since (t s : Instant) : Int :=
  if s.isLeap && s.secondOfDay < t.secondOfDay then t.nanos - s.nanos + nanosPerSecond
  else if t.isLeap && t.secondOfDay < s.secondOfDay then t.nanos - s.nanos - nanosPerSecond
  else t.nanos - s.nanos

theorem since_of_not_leap {t s : Instant} (ht : t.isLeap = false) (hs : s.isLeap = false) :
    t.since s = t.nanos - s.nanos := by
  simp [since, ht, hs]

theorem since_swap (t s : Instant) : s.since t = -t.since s := by
  simp only [since, Bool.and_eq_true, decide_eq_true_eq]
  split <;> split <;> omega

/-- The instant a number of milliseconds before `t`. The way out of a leap second goes back from
the second after it and forward from the second before it; a way that is too short to leave it
ends within. -/
def before? (t : Instant) (millis : Int) : Option Instant :=
  let shift := millis * nanosPerMilli
  if !t.isLeap || 1000 ≤ millis then ofNanos? (t.nanos - shift)
  else if -1000 < millis && t.fraction - shift < 2000000000 then
    ofParts? t.seconds (t.fraction - shift).toNat
  else ofNanos? (t.nanos - nanosPerSecond - shift)

theorem before?_of_not_leap {t : Instant} (h : t.isLeap = false) (millis : Int) :
    t.before? millis = ofNanos? (t.nanos - millis * nanosPerMilli) := by
  simp [before?, h]

end Instant

end Segmentation
