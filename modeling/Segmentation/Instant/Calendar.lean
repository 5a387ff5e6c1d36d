import Segmentation.Instant

namespace Segmentation.Instant

structure Date where
  year : Int
  month : Nat
  day : Nat
  deriving DecidableEq, Repr

namespace Date

/-- The days between 0000-03-01 and 1970-01-01. -/
def epochShift : Int := 719468

def dayNumber (d : Date) : Int :=
  let year := if d.month ≤ 2 then d.year - 1 else d.year
  let era := year / 400
  let yearOfEra := year % 400
  let monthFromMarch : Int := if d.month ≤ 2 then d.month + 9 else d.month - 3
  let dayOfYear := (153 * monthFromMarch + 2) / 5 + d.day - 1
  era * 146097 + (yearOfEra * 365 + yearOfEra / 4 - yearOfEra / 100 + dayOfYear) - epochShift

/-- A day of an era as its year in the era and its day in the year. A century has 36524 days and a
cycle of four years 1461; the leap day of the last one of each goes to its last year. -/
def splitDayOfEra (dayOfEra : Int) : Int × Int :=
  let century := min 3 (dayOfEra / 36524)
  let dayOfCentury := dayOfEra - 36524 * century
  let cycle := dayOfCentury / 1461
  let dayOfCycle := dayOfCentury - 1461 * cycle
  let year := min 3 (dayOfCycle / 365)
  (100 * century + 4 * cycle + year, dayOfCycle - 365 * year)

def ofDayNumber (n : Int) : Date :=
  let shifted := n + epochShift
  let era := shifted / 146097
  let (yearOfEra, dayOfYear) := splitDayOfEra (shifted % 146097)
  let monthFromMarch := (5 * dayOfYear + 2) / 153
  let day := dayOfYear - (153 * monthFromMarch + 2) / 5 + 1
  let year := yearOfEra + era * 400
  if monthFromMarch < 10 then ⟨year, (monthFromMarch + 3).toNat, day.toNat⟩
  else ⟨year + 1, (monthFromMarch - 9).toNat, day.toNat⟩

/-- A date exists when the day it counts to is called by it. -/
def isValid (d : Date) : Bool :=
  ofDayNumber d.dayNumber == d

theorem splitDayOfEra_spec {dayOfEra year day : Int} (h0 : 0 ≤ dayOfEra) (h1 : dayOfEra < 146097)
    (h : splitDayOfEra dayOfEra = (year, day)) :
    0 ≤ year ∧ year < 400 ∧ 0 ≤ day ∧ day ≤ 365 ∧
      dayOfEra = year * 365 + year / 4 - year / 100 + day := by
  simp only [splitDayOfEra, Prod.mk.injEq] at h
  obtain ⟨hyear, hday⟩ := h
  generalize hc : min 3 (dayOfEra / 36524) = century at hyear hday
  have hc0 : 0 ≤ century ∧ century ≤ 3 := by omega
  generalize hdoc : dayOfEra - 36524 * century = dayOfCentury at hyear hday
  have hd0 : 0 ≤ dayOfCentury ∧ dayOfCentury ≤ 36524 := by omega
  generalize hq : dayOfCentury / 1461 = cycle at hyear hday
  have hq0 : 0 ≤ cycle ∧ cycle ≤ 24 := by omega
  generalize hdoq : dayOfCentury - 1461 * cycle = dayOfCycle at hyear hday
  have hdoq0 : 0 ≤ dayOfCycle ∧ dayOfCycle ≤ 1460 := by omega
  generalize hr : min 3 (dayOfCycle / 365) = yearOfCycle at hyear hday
  have hr0 : 0 ≤ yearOfCycle ∧ yearOfCycle ≤ 3 := by omega
  have h4 : year / 4 = 25 * century + cycle := by omega
  have h100 : year / 100 = century := by omega
  omega

theorem dayNumber_ofDayNumber (n : Int) : (ofDayNumber n).dayNumber = n := by
  have h0 : 0 ≤ (n + epochShift) % 146097 := Int.emod_nonneg _ (by decide)
  have h1 : (n + epochShift) % 146097 < 146097 := Int.emod_lt_of_pos _ (by decide)
  have hd := Int.mul_ediv_add_emod (n + epochShift) 146097
  simp only [ofDayNumber]
  generalize hs : splitDayOfEra ((n + epochShift) % 146097) = split
  obtain ⟨year, day⟩ := split
  obtain ⟨hy0, hy1, hday0, hday1, hsum⟩ := splitDayOfEra_spec h0 h1 hs
  generalize (n + epochShift) / 146097 = era at *
  have hmp0 : 0 ≤ (5 * day + 2) / 153 := by omega
  have hmp1 : (5 * day + 2) / 153 ≤ 11 := by omega
  have hdayOfMonth : 1 ≤ day - (153 * ((5 * day + 2) / 153) + 2) / 5 + 1 := by omega
  generalize (5 * day + 2) / 153 = mp at *
  by_cases hm : mp < 10
  · have hmonth : ¬ (mp + 3).toNat ≤ 2 := by omega
    have hdiv : (year + era * 400) / 400 = era := by omega
    have hmod : (year + era * 400) % 400 = year := by omega
    simp only [hm, if_true, dayNumber, hmonth, if_false, hdiv, hmod]
    omega
  · have hmonth : (mp - 9).toNat ≤ 2 := by omega
    have hdiv : (year + era * 400 + 1 - 1) / 400 = era := by omega
    have hmod : (year + era * 400 + 1 - 1) % 400 = year := by omega
    simp only [hm, if_false, dayNumber, hmonth, if_true, hdiv, hmod]
    omega

end Date

end Segmentation.Instant
