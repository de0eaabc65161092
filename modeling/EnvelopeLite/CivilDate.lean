import EnvelopeLite.Calendar
import EnvelopeLite.SignedArith

namespace EnvelopeLite.CivilDate

open EnvelopeLite.Calendar EnvelopeLite.SignedArith

/-- Every operation is one on `i64`, and there is no result if one overflows. -/
def civilDateFromDays (daysSinceEpoch : Int) : Option (Int × Int × Int) := do
  let shifted ← add 64 daysSinceEpoch 719468
  let dividend := if shifted ≥ 0 then some shifted else sub 64 shifted 146096
  let era ← (do div 64 (← dividend) 146097 : Option Int)
  let dayOfEra ← (do sub 64 shifted (← mul 64 era 146097) : Option Int)
  let yearOfEra ← (do
    div 64
      (← sub 64
        (← add 64 (← sub 64 dayOfEra (← div 64 dayOfEra 1460)) (← div 64 dayOfEra 36524))
        (← div 64 dayOfEra 146096))
      365 : Option Int)
  let year ← (do add 64 yearOfEra (← mul 64 era 400) : Option Int)
  let dayOfYear ← (do
    sub 64 dayOfEra
      (← sub 64 (← add 64 (← mul 64 365 yearOfEra) (← div 64 yearOfEra 4))
        (← div 64 yearOfEra 100)) : Option Int)
  let monthPrime ← (do div 64 (← add 64 (← mul 64 5 dayOfYear) 2) 153 : Option Int)
  let day ← (do
    add 64 (← sub 64 dayOfYear (← div 64 (← add 64 (← mul 64 153 monthPrime) 2) 5)) 1 : Option Int)
  let month ← add 64 monthPrime (if monthPrime < 10 then 3 else -9)
  let year ← add 64 year (if month ≤ 2 then 1 else 0)
  some (year, month, day)

section Exact

/-- The days of an era of 400 years before one of its years, which start in March. -/
def marchYearStart (yearOfEra : Int) : Int := 365 * yearOfEra + yearOfEra / 4 - yearOfEra / 100

def yearOfEra (dayOfEra : Int) : Int :=
  (dayOfEra - dayOfEra / 1460 + dayOfEra / 36524 - dayOfEra / 146096) / 365

def dayOfYear (dayOfEra : Int) : Int := dayOfEra - marchYearStart (yearOfEra dayOfEra)

/-- The days of a year before one of its months, where March is month zero. -/
def marchMonthStart (monthPrime : Int) : Int := (153 * monthPrime + 2) / 5

def monthPrime (dayOfYear : Int) : Int := (5 * dayOfYear + 2) / 153

def month (monthPrime : Int) : Int := monthPrime + if monthPrime < 10 then 3 else -9

def year (era yearOfEra monthPrime : Int) : Int :=
  yearOfEra + era * 400 + if month monthPrime ≤ 2 then 1 else 0

variable {dayOfEra : Int}

/-- Only the last day of the era belongs to its fifth century. -/
theorem century_cases (h0 : 0 ≤ dayOfEra) (h1 : dayOfEra < 146096) :
    dayOfEra / 36524 = 0 ∨ dayOfEra / 36524 = 1 ∨ dayOfEra / 36524 = 2 ∨ dayOfEra / 36524 = 3 := by
  omega

theorem yearOfEra_eq (h0 : 0 ≤ dayOfEra) (h1 : dayOfEra < 146096) :
    yearOfEra dayOfEra = (dayOfEra - dayOfEra / 1460 + dayOfEra / 36524) / 365 := by
  have hlast : dayOfEra / 146096 = 0 := by omega
  rw [yearOfEra, hlast, Int.sub_zero]

theorem yearOfEra_century (h0 : 0 ≤ dayOfEra) (h1 : dayOfEra < 146096) :
    yearOfEra dayOfEra / 100 = dayOfEra / 36524 := by
  rw [yearOfEra_eq h0 h1]
  rcases century_cases h0 h1 with hc | hc | hc | hc <;> rw [hc] <;> omega

/-- With the leap days that the centuries miss put back, every fourth year is longer. -/
theorem yearOfEra_julian (h0 : 0 ≤ dayOfEra) (h1 : dayOfEra < 146096) :
    365 * yearOfEra dayOfEra + yearOfEra dayOfEra / 4 ≤ dayOfEra + dayOfEra / 36524 ∧
      dayOfEra + dayOfEra / 36524 <
        365 * (yearOfEra dayOfEra + 1) + (yearOfEra dayOfEra + 1) / 4 := by
  rw [yearOfEra_eq h0 h1]
  rcases century_cases h0 h1 with hc | hc | hc | hc <;> rw [hc] <;> constructor <;> omega

/-- A day lies in the year that is computed for it. The last day of the era is the
leap day of its last year. -/
theorem dayOfYear_bounds (h0 : 0 ≤ dayOfEra) (h1 : dayOfEra < 146097) :
    0 ≤ yearOfEra dayOfEra ∧ yearOfEra dayOfEra ≤ 399 ∧ 0 ≤ dayOfYear dayOfEra ∧
      dayOfYear dayOfEra ≤ 365 ∧
      (dayOfYear dayOfEra = 365 → LeapYear (yearOfEra dayOfEra + 1)) := by
  by_cases hlast : dayOfEra = 146096
  · subst hlast
    decide
  · have hlt : dayOfEra < 146096 := by omega
    have hcentury := yearOfEra_century h0 hlt
    have hjulian := yearOfEra_julian h0 hlt
    unfold dayOfYear marchYearStart LeapYear
    omega

theorem monthPrime_bounds {doy : Int} (h0 : 0 ≤ doy) (h1 : doy ≤ 365) :
    0 ≤ monthPrime doy ∧ monthPrime doy ≤ 11 ∧ marchMonthStart (monthPrime doy) ≤ doy ∧
      doy < marchMonthStart (monthPrime doy + 1) := by
  unfold monthPrime marchMonthStart
  omega

theorem month_bounds {mp : Int} (h0 : 0 ≤ mp) (h1 : mp ≤ 11) : 1 ≤ month mp ∧ month mp ≤ 12 := by
  unfold month
  split_ifs <;> omega

theorem marchMonthStart_succ {mp : Int} (y : Int) (h0 : 0 ≤ mp) (h1 : mp ≤ 10) :
    marchMonthStart (mp + 1) = marchMonthStart mp + monthLength y (month mp) := by
  interval_cases mp <;> rfl

theorem daysBeforeMonth_eq_of_lt {mp : Int} (y : Int) (h0 : 0 ≤ mp) (h1 : mp < 10) :
    daysBeforeMonth y (month mp) = daysBeforeMonth y 3 + marchMonthStart mp := by
  by_cases hleap : LeapYear y
  · interval_cases mp <;> simp [daysBeforeMonth, month, marchMonthStart, hleap]
  · interval_cases mp <;> simp [daysBeforeMonth, month, marchMonthStart, hleap]

theorem daysBeforeMonth_eq_of_le {mp : Int} (y : Int) (h0 : 10 ≤ mp) (h1 : mp ≤ 11) :
    daysBeforeMonth y (month mp) = marchMonthStart mp - 306 := by
  interval_cases mp <;> rfl

theorem year_of_lt {era yoe mp : Int} (h0 : 0 ≤ mp) (h1 : mp < 10) :
    year era yoe mp = yoe + era * 400 := by
  have hmonth : ¬ month mp ≤ 2 := by
    rw [month, if_pos h1]
    omega
  rw [year, if_neg hmonth, Int.add_zero]

theorem year_of_le {era yoe mp : Int} (h0 : 10 ≤ mp) (h1 : mp ≤ 11) :
    year era yoe mp = yoe + era * 400 + 1 := by
  have hmonth : month mp ≤ 2 := by
    rw [month, if_neg (by omega)]
    omega
  rw [year, if_pos hmonth]

theorem daysBefore_march (era : Int) {yoe mp : Int} (hy0 : 0 ≤ yoe) (hy1 : yoe ≤ 399) (hm0 : 0 ≤ mp)
    (hm1 : mp ≤ 11) :
    daysBeforeYear (year era yoe mp) + daysBeforeMonth (year era yoe mp) (month mp) =
      era * 146097 + marchYearStart yoe + marchMonthStart mp - 306 := by
  by_cases hmarch : mp < 10
  · rw [year_of_lt hm0 hmarch, daysBeforeMonth_eq_of_lt _ hm0 hmarch]
    unfold daysBeforeYear daysBeforeMonth marchYearStart LeapYear
    split_ifs <;> omega
  · rw [year_of_le (by omega) hm1, daysBeforeMonth_eq_of_le _ (by omega) hm1]
    unfold daysBeforeYear marchYearStart
    omega

theorem day_le_monthLength {era yoe doy : Int} (h0 : 0 ≤ doy) (h1 : doy ≤ 365)
    (hleap : doy = 365 → LeapYear (yoe + 1)) :
    doy - marchMonthStart (monthPrime doy) + 1 ≤
      monthLength (year era yoe (monthPrime doy)) (month (monthPrime doy)) := by
  obtain ⟨hm0, hm1, -, hend⟩ := monthPrime_bounds h0 h1
  by_cases hfebruary : monthPrime doy = 11
  · rw [year_of_le (by omega) hm1, hfebruary]
    change doy - 337 + 1 ≤ if LeapYear (yoe + era * 400 + 1) then 29 else 28
    unfold LeapYear at hleap ⊢
    split_ifs <;> omega
  · have hnext := marchMonthStart_succ (year era yoe (monthPrime doy)) hm0 (by omega)
    omega

def eraDay (days : Int) : Int := (days + 719468) % 146097

def marchDay (days : Int) : Int := dayOfYear (eraDay days)

def marchMonth (days : Int) : Int := monthPrime (marchDay days)

theorem marchDay_bounds (days : Int) :
    0 ≤ yearOfEra (eraDay days) ∧ yearOfEra (eraDay days) ≤ 399 ∧ 0 ≤ marchDay days ∧
      marchDay days ≤ 365 ∧ (marchDay days = 365 → LeapYear (yearOfEra (eraDay days) + 1)) := by
  apply dayOfYear_bounds
  · exact Int.emod_nonneg _ (by decide)
  · exact Int.emod_lt_of_pos _ (by decide)

theorem marchMonth_bounds (days : Int) :
    0 ≤ marchMonth days ∧ marchMonth days ≤ 11 ∧ marchMonthStart (marchMonth days) ≤ marchDay days ∧
      marchDay days < marchMonthStart (marchMonth days + 1) := by
  obtain ⟨-, -, h0, h1, -⟩ := marchDay_bounds days
  exact monthPrime_bounds h0 h1

/-- The date that the algorithm computes, without a bound on the integers. -/
def exactDate (days : Int) : Date where
  year := year ((days + 719468) / 146097) (yearOfEra (eraDay days)) (marchMonth days)
  month := month (marchMonth days)
  day := marchDay days - marchMonthStart (marchMonth days) + 1
  one_le_month := (month_bounds (marchMonth_bounds days).1 (marchMonth_bounds days).2.1).1
  month_le := (month_bounds (marchMonth_bounds days).1 (marchMonth_bounds days).2.1).2
  one_le_day := by
    have hstart := (marchMonth_bounds days).2.2.1
    omega
  day_le := by
    obtain ⟨-, -, h0, h1, hleap⟩ := marchDay_bounds days
    exact day_le_monthLength h0 h1 hleap

theorem dayNumber_exactDate (days : Int) : (exactDate days).dayNumber = days := by
  obtain ⟨hy0, hy1, -⟩ := marchDay_bounds days
  obtain ⟨hm0, hm1, -⟩ := marchMonth_bounds days
  have hbefore := daysBefore_march ((days + 719468) / 146097) hy0 hy1 hm0 hm1
  simp only [Date.dayNumber, exactDate, hbefore]
  rw [marchDay, dayOfYear, eraDay]
  omega

theorem exactDate_eq_dateAt (days : Int) : exactDate days = dateAt days := by
  apply Date.dayNumber_injective
  rw [dayNumber_exactDate, dayNumber_dateAt]

end Exact

section Overflow

variable {days dayOfEra : Int}

/-- The quotient is rounded down on both sides of the epoch. -/
theorem era_ok {shifted : Int} (hlo : -2 ^ 63 + 146096 ≤ shifted) (hhi : shifted < 2 ^ 63) :
    (do
      let dividend := if shifted ≥ 0 then some shifted else sub 64 shifted 146096
      div 64 (← dividend) 146097) = some (shifted / 146097) := by
  by_cases hpos : shifted ≥ 0
  · refine bind_of_eq_some (if_pos hpos) ?_
    exact div_of_nonneg (by decide) hpos hhi
  · refine bind_of_eq_some ((if_neg hpos).trans (sub_of_bounds (by omega) (by omega))) ?_
    exact div_of_neg (b := 146097) (by decide) (by omega) (by omega)

theorem dayOfEra_ok {shifted : Int} (hlo : -2 ^ 63 + 146096 ≤ shifted) (hhi : shifted < 2 ^ 63) :
    (do sub 64 shifted (← mul 64 (shifted / 146097) 146097)) = some (shifted % 146097) := by
  have hmod : shifted - shifted / 146097 * 146097 = shifted % 146097 := by omega
  refine bind_of_eq_some (mul_of_bounds (by omega) (by omega)) ?_
  rw [sub_of_bounds (by omega) (by omega), hmod]

theorem yearOfEra_ok (h0 : 0 ≤ dayOfEra) (h1 : dayOfEra < 146097) :
    (do
      div 64
        (← sub 64
          (← add 64 (← sub 64 dayOfEra (← div 64 dayOfEra 1460)) (← div 64 dayOfEra 36524))
          (← div 64 dayOfEra 146096))
        365) = some (yearOfEra dayOfEra) := by
  refine bind_of_eq_some (div_of_nonneg (by decide) h0 (by omega)) ?_
  refine bind_of_eq_some (sub_of_bounds (by omega) (by omega)) ?_
  refine bind_of_eq_some (div_of_nonneg (by decide) h0 (by omega)) ?_
  refine bind_of_eq_some (add_of_bounds (by omega) (by omega)) ?_
  refine bind_of_eq_some (div_of_nonneg (by decide) h0 (by omega)) ?_
  refine bind_of_eq_some (sub_of_bounds (by omega) (by omega)) ?_
  exact div_of_nonneg (by decide) (by omega) (by omega)

theorem dayOfYear_ok {yoe : Int} (h0 : 0 ≤ dayOfEra) (h1 : dayOfEra < 146097) (hy0 : 0 ≤ yoe)
    (hy1 : yoe ≤ 399) :
    (do
      sub 64 dayOfEra
        (← sub 64 (← add 64 (← mul 64 365 yoe) (← div 64 yoe 4)) (← div 64 yoe 100))) =
      some (dayOfEra - marchYearStart yoe) := by
  refine bind_of_eq_some (mul_of_bounds (by omega) (by omega)) ?_
  refine bind_of_eq_some (div_of_nonneg (by decide) hy0 (by omega)) ?_
  refine bind_of_eq_some (add_of_bounds (by omega) (by omega)) ?_
  refine bind_of_eq_some (div_of_nonneg (by decide) hy0 (by omega)) ?_
  refine bind_of_eq_some (sub_of_bounds (by omega) (by omega)) ?_
  exact sub_of_bounds (by omega) (by omega)

theorem monthPrime_ok {doy : Int} (h0 : 0 ≤ doy) (h1 : doy ≤ 365) :
    (do div 64 (← add 64 (← mul 64 5 doy) 2) 153) = some (monthPrime doy) := by
  refine bind_of_eq_some (mul_of_bounds (by omega) (by omega)) ?_
  refine bind_of_eq_some (add_of_bounds (by omega) (by omega)) ?_
  exact div_of_nonneg (by decide) (by omega) (by omega)

theorem day_ok {doy mp : Int} (h0 : 0 ≤ doy) (h1 : doy ≤ 365) (hm0 : 0 ≤ mp) (hm1 : mp ≤ 11) :
    (do add 64 (← sub 64 doy (← div 64 (← add 64 (← mul 64 153 mp) 2) 5)) 1) =
      some (doy - marchMonthStart mp + 1) := by
  refine bind_of_eq_some (mul_of_bounds (by omega) (by omega)) ?_
  refine bind_of_eq_some (add_of_bounds (by omega) (by omega)) ?_
  refine bind_of_eq_some (div_of_nonneg (by decide) (by omega) (by omega)) ?_
  refine bind_of_eq_some (sub_of_bounds (by omega) (by omega)) ?_
  exact add_of_bounds (by omega) (by omega)

theorem month_ok {mp : Int} (hm0 : 0 ≤ mp) (hm1 : mp ≤ 11) :
    add 64 mp (if mp < 10 then 3 else -9) = some (month mp) := by
  have hmonth := month_bounds hm0 hm1
  unfold month at hmonth
  exact add_of_bounds (by omega) (by omega)

def fields (d : Date) : Int × Int × Int := (d.year, d.month, d.day)

theorem fields_injective : Function.Injective fields := by
  intro d d' h
  simp only [fields, Prod.mk.injEq] at h
  exact Date.ext h.1 h.2.1 h.2.2

theorem civilDateFromDays_eq_exact (hlo : -2 ^ 63 ≤ days) (hhi : days ≤ 2 ^ 63 - 1 - 719468) :
    civilDateFromDays days = some (fields (exactDate days)) := by
  obtain ⟨hy0, hy1, hd0, hd1, -⟩ := marchDay_bounds days
  obtain ⟨hm0, hm1, -⟩ := marchMonth_bounds days
  have he0 : 0 ≤ eraDay days := Int.emod_nonneg _ (by decide)
  have he1 : eraDay days < 146097 := Int.emod_lt_of_pos _ (by decide)
  have hera : -2 ^ 63 + 400 ≤ (days + 719468) / 146097 * 400 ∧
      (days + 719468) / 146097 * 400 < 2 ^ 63 - 400 := by omega
  refine bind_of_eq_some (add_of_bounds (by omega) (by omega)) ?_
  refine bind_of_eq_some (era_ok (by omega) (by omega)) ?_
  refine bind_of_eq_some (v := eraDay days) (dayOfEra_ok (by omega) (by omega)) ?_
  refine bind_of_eq_some (yearOfEra_ok he0 he1) ?_
  refine bind_of_eq_some (bind_of_eq_some (mul_of_bounds (by omega) (by omega))
    (add_of_bounds (by omega) (by omega))) ?_
  refine bind_of_eq_some (dayOfYear_ok he0 he1 hy0 hy1) ?_
  refine bind_of_eq_some (monthPrime_ok hd0 hd1) ?_
  refine bind_of_eq_some (day_ok hd0 hd1 hm0 hm1) ?_
  refine bind_of_eq_some (month_ok hm0 hm1) ?_
  refine bind_of_eq_some (add_of_bounds ?_ ?_) rfl
  · split_ifs <;> omega
  · split_ifs <;> omega

theorem civilDateFromDays_eq (hlo : -2 ^ 63 ≤ days) (hhi : days ≤ 2 ^ 63 - 1 - 719468) :
    civilDateFromDays days = some (fields (dateAt days)) := by
  rw [civilDateFromDays_eq_exact hlo hhi, exactDate_eq_dateAt]

end Overflow

theorem civil_date_is_the_gregorian_calendar (days : Int) (hi64 : InRange 64 days)
    (hmax : days ≤ 2 ^ 63 - 1 - 719468) :
    (∃ y m d, civilDateFromDays days = some (y, m, d) ∧ 1 ≤ m ∧ m ≤ 12 ∧ 1 ≤ d ∧
      d ≤ monthLength y m) ∧
    civilDateFromDays 0 = some (1970, 1, 1) ∧
    (∀ date : Date, civilDateFromDays days = some (fields date) →
      days + 1 ≤ 2 ^ 63 - 1 - 719468 →
        civilDateFromDays (days + 1) = some (fields date.next)) ∧
    (∀ date : Date, civilDateFromDays days = some (fields date) ↔ dateAt days = date) ∧
    Function.Bijective dateAt := by
  have hdays := civilDateFromDays_eq hi64.1 hmax
  have hinverse : ∀ date : Date,
      civilDateFromDays days = some (fields date) ↔ dateAt days = date := by
    intro date
    rw [hdays, Option.some.injEq, fields_injective.eq_iff]
  refine ⟨?_, ?_, ?_, hinverse, dateAt_bijective⟩
  · exact ⟨_, _, _, hdays, (dateAt days).one_le_month, (dateAt days).month_le,
      (dateAt days).one_le_day, (dateAt days).day_le⟩
  · rw [civilDateFromDays_eq (by decide) (by decide), dateAt_zero]
    rfl
  · intro date hdate hnext
    have hlo : -2 ^ 63 ≤ days + 1 := Int.le_trans hi64.1 (by omega)
    rw [civilDateFromDays_eq hlo hnext, dateAt_succ, (hinverse date).mp hdate]

theorem day_before_epoch_is_new_years_eve :
    civilDateFromDays (-1) = some (1969, 12, 31) ∧ dateAt (-1) = Date.epoch.prev := by
  have hdate : civilDateFromDays (-1) = some (fields Date.epoch.prev) := by decide
  have hcalendar := civil_date_is_the_gregorian_calendar (-1) (by decide) (by decide)
  exact ⟨hdate, (hcalendar.2.2.2.1 Date.epoch.prev).mp hdate⟩

end EnvelopeLite.CivilDate
