import Segmentation.Instant.Text

namespace Segmentation

theorem Text.isBlank_of_isDigit {c : Char} (h : c.isDigit) : isBlank c = false := by
  obtain ⟨hlow, hhigh⟩ := Char.isDigit_iff_toNat.1 h
  change 48 ≤ c.toNat at hlow
  change c.toNat ≤ 57 at hhigh
  rw [isBlank, isWithin, List.any_eq_false]
  intro range hrange
  have hapart : range.2 < 48 ∨ 57 < range.1 := by
    revert range
    decide
  simp only [Bool.and_eq_true, decide_eq_true_eq]
  omega

namespace Decimal

theorem ofDigits_toDigits (n : Nat) : ofDigits (Nat.toDigits 10 n) = n :=
  Nat.ofDigitChars_ten_toDigits

theorem ofDigits_zeros_append (zeros : Nat) (digits : List Char) :
    ofDigits (List.replicate zeros '0' ++ digits) = ofDigits digits := by
  change Nat.ofDigitChars 10 (List.replicate zeros '0' ++ digits) 0 = _
  rw [Nat.ofDigitChars_append, Nat.ofDigitChars_replicate_zero, Nat.mul_zero]
  rfl

end Decimal

namespace Instant

namespace Date

theorem isValid_ofDayNumber (n : Int) : (ofDayNumber n).isValid := by
  rw [isValid, dayNumber_ofDayNumber]
  exact beq_self_eq_true _

theorem ofDayNumber_lt (n : Int) : (ofDayNumber n).month < 100 ∧ (ofDayNumber n).day < 100 := by
  have h0 : 0 ≤ (n + epochShift) % 146097 := Int.emod_nonneg _ (by decide)
  have h1 : (n + epochShift) % 146097 < 146097 := Int.emod_lt_of_pos _ (by decide)
  simp only [ofDayNumber]
  generalize hs : splitDayOfEra ((n + epochShift) % 146097) = split
  obtain ⟨year, day⟩ := split
  obtain ⟨-, -, hday0, hday1, -⟩ := splitDayOfEra_spec h0 h1 hs
  by_cases hm : (5 * day + 2) / 153 < 10
  · simp only [if_pos hm]
    omega
  · simp only [if_neg hm]
    omega

end Date

section Padded

variable (width n : Nat)

theorem toList_padded : (padded width n).toList =
    List.replicate (width - (Nat.toDigits 10 n).length) '0' ++ Nat.toDigits 10 n := by
  have hdigits : (toString n).toList = Nat.toDigits 10 n := by
    rw [Nat.toString_eq_repr, Nat.toList_repr]
  rw [padded, String.toList_append, String.toList_ofList, hdigits, ← String.length_toList, hdigits]

theorem isDigit_of_mem_padded {c : Char} (h : c ∈ (padded width n).toList) : c.isDigit := by
  rw [toList_padded, List.mem_append] at h
  rcases h with h | h
  · rw [List.eq_of_mem_replicate h]
    rfl
  · exact Nat.isDigit_of_mem_toDigits (by decide) (by decide) h

theorem ofDigits_padded : Decimal.ofDigits (padded width n).toList = n := by
  rw [toList_padded, Decimal.ofDigits_zeros_append, Decimal.ofDigits_toDigits]

theorem padded_ne_nil : (padded width n).toList ≠ [] := by
  rw [toList_padded]
  exact List.append_ne_nil_of_right_ne_nil _ Nat.toDigits_ne_nil

theorem head_padded (rest : List Char) :
    ∃ c tail, (padded width n).toList ++ rest = c :: tail ∧ c.isDigit := by
  obtain ⟨c, tail, h⟩ := List.exists_cons_of_ne_nil (padded_ne_nil width n)
  refine ⟨c, tail ++ rest, by rw [h]; rfl, isDigit_of_mem_padded width n ?_⟩
  rw [h]
  exact List.mem_cons_self

variable {width n}

theorem length_padded (h : (Nat.toDigits 10 n).length ≤ width) :
    (padded width n).toList.length = width := by
  rw [toList_padded, List.length_append, List.length_replicate]
  omega

end Padded

namespace Reading

def EndsNumber (rest : List Char) : Prop :=
  ∀ c ∈ rest.head?, c.isDigit = false

theorem endsNumber_cons {c : Char} (h : c.isDigit = false) (rest : List Char) :
    EndsNumber (c :: rest) := by
  intro d hd
  cases hd
  exact h

theorem skipBlanks_cons {c : Char} (h : Text.isBlank c = false) (rest : List Char) :
    skipBlanks (c :: rest) = c :: rest := by
  apply Text.dropWhile_isBlank_eq_self
  intro d hd
  cases hd
  exact h

section Digits

variable {digits rest : List Char} (hdigits : ∀ c ∈ digits, c.isDigit)

include hdigits

theorem takeWhile_digits (hend : EndsNumber rest) :
    (digits ++ rest).takeWhile Char.isDigit = digits := by
  rw [List.takeWhile_append_of_pos hdigits]
  cases rest with
  | nil => rw [List.takeWhile_nil, List.append_nil]
  | cons c rest =>
    rw [List.takeWhile_cons, hend c rfl, if_neg Bool.false_ne_true, List.append_nil]

theorem dropWhile_digits (hend : EndsNumber rest) :
    (digits ++ rest).dropWhile Char.isDigit = rest := by
  rw [List.dropWhile_append_of_pos hdigits]
  cases rest with
  | nil => rfl
  | cons c rest => rw [List.dropWhile_cons, hend c rfl, if_neg Bool.false_ne_true]

theorem number?_append {width : Nat} (hne : digits ≠ []) (hwidth : digits.length ≤ width)
    (hend : digits.length < width → EndsNumber rest) :
    number? width (digits ++ rest) = some (Decimal.ofDigits digits, rest) := by
  have htaken : EndsNumber (rest.take (width - digits.length)) := by
    intro c hc
    rcases Nat.lt_or_eq_of_le hwidth with hlt | heq
    · rw [List.head?_take, if_neg (by omega)] at hc
      exact hend hlt c hc
    · rw [heq, Nat.sub_self, List.take_zero] at hc
      cases hc
  have hdigits' : ((digits ++ rest).take width).takeWhile Char.isDigit = digits := by
    rw [List.take_append, List.take_of_length_le hwidth, takeWhile_digits hdigits htaken]
  rw [number?, hdigits', List.isEmpty_eq_false_iff.2 hne, List.drop_left]
  rfl

end Digits

section Numbers

variable {width n : Nat} (rest : List Char)

theorem number?_padded (h : (Nat.toDigits 10 n).length ≤ width) :
    number? width ((padded width n).toList ++ rest) = some (n, rest) := by
  have hlength := length_padded h
  rw [number?_append (fun c => isDigit_of_mem_padded width n) (padded_ne_nil width n)
    (Nat.le_of_eq hlength) (fun hlt => absurd hlt (by omega)), ofDigits_padded]

theorem skipBlanks_padded :
    skipBlanks ((padded width n).toList ++ rest) = (padded width n).toList ++ rest := by
  obtain ⟨c, tail, h, hc⟩ := head_padded width n rest
  rw [h]
  exact skipBlanks_cons (Text.isBlank_of_isDigit hc) tail

theorem number?_two (h : n < 100) : number? 2 ((padded 2 n).toList ++ rest) = some (n, rest) :=
  number?_padded rest ((Nat.length_toDigits_le_iff (by decide) (by decide)).2 h)

theorem markedNumber?_padded {mark : Char} (hmark : Text.isBlank mark = false) (h : n < 100) :
    markedNumber? mark (mark :: ((padded 2 n).toList ++ rest)) = some (n, rest) := by
  rw [markedNumber?, mark?, skipBlanks_cons hmark]
  simp only [if_pos, Option.bind_some]
  rw [skipBlanks_padded, number?_two rest h]

theorem year?_writeYear (year : Int) {rest : List Char} (hend : EndsNumber rest) :
    year? ((writeYear year).toList ++ rest) = some (year, rest) := by
  -- A year with a sign has as many digits as it takes, so that what follows must be no digit.
  have signed : number? ((padded 4 year.natAbs).toList ++ rest).length
      ((padded 4 year.natAbs).toList ++ rest) = some (year.natAbs, rest) := by
    rw [number?_append (fun c => isDigit_of_mem_padded 4 _) (padded_ne_nil 4 _)
      (by rw [List.length_append]; omega) fun _ => hend, ofDigits_padded]
  rw [writeYear]
  by_cases hneg : year < 0
  · have hyear : -(year.natAbs : Int) = year := by omega
    rw [if_pos hneg, String.toList_append]
    change year? ('-' :: ((padded 4 year.natAbs).toList ++ rest)) = _
    rw [year?, signed, Option.map_some]
    simp only [hyear]
  · rw [if_neg hneg]
    have hyear : (year.natAbs : Int) = year := by omega
    by_cases hlarge : 9999 < year
    · rw [if_pos hlarge, String.toList_append]
      change year? ('+' :: ((padded 4 year.natAbs).toList ++ rest)) = _
      rw [year?, signed, Option.map_some]
      simp only [hyear]
    · rw [if_neg hlarge]
      have hfour : number? 4 ((padded 4 year.natAbs).toList ++ rest) =
          some (year.natAbs, rest) := by
        apply number?_padded rest
        exact (Nat.length_toDigits_le_iff (by decide) (by decide)).2 (by omega)
      obtain ⟨c, tail, hcons, hc⟩ := head_padded 4 year.natAbs rest
      rw [hcons] at hfour ⊢
      -- No digit is taken for a sign.
      rw [year?.eq_def]
      split
      · next heq =>
        rw [(List.cons.inj heq).1] at hc
        exact absurd hc (by decide)
      · next heq =>
        rw [(List.cons.inj heq).1] at hc
        exact absurd hc (by decide)
      · rw [hfour, Option.map_some]
        simp only [hyear]

theorem skipBlanks_writeYear (year : Int) :
    skipBlanks ((writeYear year).toList ++ rest) = (writeYear year).toList ++ rest := by
  rw [writeYear]
  by_cases hneg : year < 0
  · rw [if_pos hneg, String.toList_append]
    exact skipBlanks_cons (by decide) _
  · rw [if_neg hneg]
    by_cases hlarge : 9999 < year
    · rw [if_pos hlarge, String.toList_append]
      exact skipBlanks_cons (by decide) _
    · rw [if_neg hlarge]
      exact skipBlanks_padded rest

theorem fraction?_point {nanos unit : Nat} {rest : List Char} (hend : EndsNumber rest)
    (hlength : (Nat.toDigits 10 (nanos / unit)).length ≤ width) (hwidth : width ≤ 9)
    (hunit : Nat.pow 10 (9 - width) = unit) (hwhole : nanos % unit = 0) :
    fraction? (("." ++ padded width (nanos / unit)).toList ++ rest) = some (nanos, rest) := by
  have hdigits : ∀ c ∈ (padded width (nanos / unit)).toList, c.isDigit := fun c =>
    isDigit_of_mem_padded width _
  have hpadded := length_padded hlength
  have hkept : (padded width (nanos / unit)).toList.take 9 =
      (padded width (nanos / unit)).toList := List.take_of_length_le (by omega)
  have hnanos : nanos / unit * unit = nanos :=
    Nat.div_mul_cancel (Nat.dvd_of_mod_eq_zero hwhole)
  rw [String.toList_append]
  change fraction? ('.' :: ((padded width (nanos / unit)).toList ++ rest)) = _
  simp only [fraction?, takeWhile_digits hdigits hend, dropWhile_digits hdigits hend,
    List.isEmpty_eq_false_iff.2 (padded_ne_nil width _), hkept, hpadded, ofDigits_padded, hunit,
    hnanos]
  rfl

theorem fraction?_writeFraction {nanos : Nat} (h : nanos < 1000000000) {rest : List Char}
    (hend : EndsNumber rest) (hpoint : ∀ tail, rest ≠ '.' :: tail) :
    fraction? ((writeFraction nanos).toList ++ rest) = some (nanos, rest) := by
  rw [writeFraction]
  by_cases hzero : nanos = 0
  · rw [if_pos hzero, hzero]
    change fraction? rest = _
    rw [fraction?.eq_def]
    split
    · next tail => exact absurd rfl (hpoint tail)
    · rfl
  rw [if_neg hzero]
  by_cases hmillis : nanos % 1000000 = 0
  · rw [if_pos hmillis]
    refine fraction?_point hend ?_ (by decide) rfl hmillis
    exact (Nat.length_toDigits_le_iff (by decide) (by decide)).2 (by omega)
  rw [if_neg hmillis]
  by_cases hmicros : nanos % 1000 = 0
  · rw [if_pos hmicros]
    refine fraction?_point hend ?_ (by decide) rfl hmicros
    exact (Nat.length_toDigits_le_iff (by decide) (by decide)).2 (by omega)
  · rw [if_neg hmicros]
    have hlength : (Nat.toDigits 10 (nanos / 1)).length ≤ 9 :=
      (Nat.length_toDigits_le_iff (by decide) (by decide)).2 (by omega)
    have hread := fraction?_point hend hlength (by decide) rfl (Nat.mod_one nanos)
    rw [Nat.div_one] at hread
    exact hread

end Numbers

theorem date?_ofDayNumber (n : Int) (rest : List Char) :
    date? ((writeYear (Date.ofDayNumber n).year).toList ++
      '-' :: ((padded 2 (Date.ofDayNumber n).month).toList ++
      '-' :: ((padded 2 (Date.ofDayNumber n).day).toList ++ rest))) =
      some (Date.ofDayNumber n, rest) := by
  obtain ⟨hmonth, hday⟩ := Date.ofDayNumber_lt n
  have hmark : Text.isBlank '-' = false := by decide
  have hend (tail : List Char) : EndsNumber ('-' :: tail) := endsNumber_cons (by decide) tail
  have hvalid := Date.isValid_ofDayNumber n
  simp only [date?, skipBlanks_writeYear, year?_writeYear _ (hend _),
    markedNumber?_padded _ hmark hmonth, markedNumber?_padded _ hmark hday, Option.bind_eq_bind,
    Option.bind_some, if_pos hvalid]

theorem time?_written {ofDay fraction : Nat} (hofDay : ofDay < 86400)
    (hfraction : fraction < 2000000000) (hleap : 1000000000 ≤ fraction → ofDay % 60 = 59)
    {rest : List Char} (hend : EndsNumber rest) (hpoint : ∀ tail, rest ≠ '.' :: tail) :
    time? ((padded 2 (ofDay / 3600)).toList ++
      ':' :: ((padded 2 (ofDay / 60 % 60)).toList ++
      ':' :: ((padded 2 (ofDay % 60 + fraction / 1000000000)).toList ++
      ((writeFraction (fraction % 1000000000)).toList ++ rest)))) =
      some ((ofDay, fraction), rest) := by
  have hmark : Text.isBlank ':' = false := by decide
  have hhour : ofDay / 3600 < 100 := by omega
  have hminute : ofDay / 60 % 60 < 100 := by omega
  have hsecond : ofDay % 60 + fraction / 1000000000 < 100 := by omega
  have hnanos : fraction % 1000000000 < 1000000000 := Nat.mod_lt _ (by decide)
  have hrange : ¬(24 ≤ ofDay / 3600 ∨ 60 ≤ ofDay / 60 % 60 ∨
      60 < ofDay % 60 + fraction / 1000000000) := by omega
  simp only [time?, skipBlanks_padded, number?_two _ hhour, markedNumber?_padded _ hmark hminute,
    markedNumber?_padded _ hmark hsecond, fraction?_writeFraction hnanos hend hpoint,
    Option.bind_eq_bind, Option.bind_some, if_neg hrange]
  by_cases hsixty : ofDay % 60 + fraction / 1000000000 = 60
  · rw [if_pos hsixty]
    have hofDay' : (ofDay / 3600 * 60 + ofDay / 60 % 60) * 60 + 59 = ofDay := by omega
    have hfraction' : 1000000000 + fraction % 1000000000 = fraction := by omega
    rw [hofDay', hfraction']
  · rw [if_neg hsixty]
    have hofDay' : (ofDay / 3600 * 60 + ofDay / 60 % 60) * 60 +
        (ofDay % 60 + fraction / 1000000000) = ofDay := by omega
    have hfraction' : fraction % 1000000000 = fraction := by omega
    rw [hofDay', hfraction']

end Reading

theorem secondOfDay_toNat (t : Instant) : t.secondOfDay.toNat < 86400 ∧
    t.seconds / 86400 * 86400 + (t.secondOfDay.toNat : Int) = t.seconds := by
  rw [secondOfDay]
  omega

open Reading in
/-- Every instant is read back from its text. -/
theorem read?_write (t : Instant) : read? t.write = some t := by
  obtain ⟨hofDay, hseconds⟩ := secondOfDay_toNat t
  have hleap : 1000000000 ≤ t.fraction → t.secondOfDay.toNat % 60 = 59 := by
    intro h
    have hlast := t.last_of_le h
    rw [secondOfDay]
    omega
  have htext : t.write.toList =
      (writeYear (Date.ofDayNumber (t.seconds / 86400)).year).toList ++
      '-' :: ((padded 2 (Date.ofDayNumber (t.seconds / 86400)).month).toList ++
      '-' :: ((padded 2 (Date.ofDayNumber (t.seconds / 86400)).day).toList ++
      'T' :: ((padded 2 (t.secondOfDay.toNat / 3600)).toList ++
      ':' :: ((padded 2 (t.secondOfDay.toNat / 60 % 60)).toList ++
      ':' :: ((padded 2 (t.secondOfDay.toNat % 60 + t.fraction / 1000000000)).toList ++
      ((writeFraction (t.fraction % 1000000000)).toList ++ ['Z'])))))) := by
    have hmarks : "-".toList = ['-'] ∧ "T".toList = ['T'] ∧ ":".toList = [':'] ∧
        "Z".toList = ['Z'] := by decide
    simp only [write, writeLocal, String.toList_append, hmarks, List.append_assoc,
      List.cons_append, List.nil_append]
  have htime := time?_written hofDay t.fraction_lt hleap
    (endsNumber_cons (show 'Z'.isDigit = false by decide) []) (by simp)
  have hoffset : offset? (skipBlanks ['Z']) = some (0, []) := by decide
  have hend : (skipBlanks []).isEmpty := rfl
  have hhere : ofParts? (t.seconds / 86400 * 86400 + (t.secondOfDay.toNat : Int)) t.fraction =
      some t := by
    rw [hseconds, ofParts?_parts]
  simp only [read?, htext, date?_ofDayNumber, separator?, htime, hoffset,
    Date.dayNumber_ofDayNumber, hhere, Option.bind_eq_bind, Option.bind_some]
  rw [if_pos hend, Int.sub_zero, ofParts?_parts]

end Instant

end Segmentation
