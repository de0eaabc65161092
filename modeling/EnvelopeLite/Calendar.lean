import Mathlib.Algebra.Group.End
import Mathlib.Tactic.Common
import Mathlib.Tactic.IntervalCases

namespace EnvelopeLite.Calendar

/-- The Gregorian leap rule, carried on to every year in both directions. -/
def LeapYear (year : Int) : Prop := 4 ∣ year ∧ (¬ 100 ∣ year ∨ 400 ∣ year)

instance (year : Int) : Decidable (LeapYear year) := inferInstanceAs (Decidable (_ ∧ _))

def monthLength (year month : Int) : Int :=
  if month = 2 then if LeapYear year then 29 else 28
  else if month = 4 ∨ month = 6 ∨ month = 9 ∨ month = 11 then 30
  else 31

theorem monthLength_pos (year month : Int) : 1 ≤ monthLength year month := by
  unfold monthLength
  split_ifs <;> decide

theorem monthLength_december (year : Int) : monthLength year 12 = 31 := rfl

@[ext] structure Date where
  year : Int
  month : Int
  day : Int
  one_le_month : 1 ≤ month
  month_le : month ≤ 12
  one_le_day : 1 ≤ day
  day_le : day ≤ monthLength year month
  deriving DecidableEq

namespace Date

def epoch : Date := ⟨1970, 1, 1, by decide, by decide, by decide, by decide⟩

def next (d : Date) : Date :=
  if hday : d.day < monthLength d.year d.month then
    ⟨d.year, d.month, d.day + 1, d.one_le_month, d.month_le, by have := d.one_le_day; omega, hday⟩
  else if hmonth : d.month < 12 then
    ⟨d.year, d.month + 1, 1, by have := d.one_le_month; omega, hmonth, le_rfl,
      monthLength_pos _ _⟩
  else ⟨d.year + 1, 1, 1, le_rfl, by decide, le_rfl, monthLength_pos _ _⟩

def prev (d : Date) : Date :=
  if hday : 1 < d.day then
    ⟨d.year, d.month, d.day - 1, d.one_le_month, d.month_le, by omega,
      by have := d.day_le; omega⟩
  else if hmonth : 1 < d.month then
    ⟨d.year, d.month - 1, monthLength d.year (d.month - 1), by omega,
      by have := d.month_le; omega, monthLength_pos _ _, le_rfl⟩
  else ⟨d.year - 1, 12, 31, by decide, le_rfl, by decide, le_rfl⟩

theorem prev_next (d : Date) : d.next.prev = d := by
  have hmonth := d.one_le_month
  have hmonth' := d.month_le
  have hday := d.one_le_day
  have hday' := d.day_le
  unfold next
  split_ifs with hinside hyear
  · simp only [prev]
    rw [dif_pos (by omega)]
    ext
    · rfl
    · rfl
    · exact Int.add_sub_cancel _ _
  · simp only [prev]
    rw [dif_neg (by decide), dif_pos (by omega)]
    ext
    · rfl
    · exact Int.add_sub_cancel _ _
    · change monthLength d.year (d.month + 1 - 1) = d.day
      rw [Int.add_sub_cancel]
      omega
  · have hlast : d.month = 12 := by omega
    rw [hlast, monthLength_december] at hinside hday'
    simp only [prev]
    rw [dif_neg (by decide), dif_neg (by decide)]
    ext
    · exact Int.add_sub_cancel _ _
    · exact hlast.symm
    · change 31 = d.day
      omega

theorem next_prev (d : Date) : d.prev.next = d := by
  have hmonth := d.one_le_month
  have hmonth' := d.month_le
  have hday := d.one_le_day
  have hday' := d.day_le
  unfold prev
  split_ifs with hinside hyear
  · simp only [next]
    rw [dif_pos (by omega)]
    ext
    · rfl
    · rfl
    · exact Int.sub_add_cancel _ _
  · simp only [next]
    rw [dif_neg (by omega), dif_pos (by omega)]
    ext
    · rfl
    · exact Int.sub_add_cancel _ _
    · change 1 = d.day
      omega
  · simp only [next]
    rw [dif_neg (by rw [monthLength_december]; decide), dif_neg (by decide)]
    ext
    · exact Int.sub_add_cancel _ _
    · change 1 = d.month
      omega
    · change 1 = d.day
      omega

/-- One day on, and back. -/
def tomorrow : Equiv.Perm Date := ⟨next, prev, prev_next, next_prev⟩

end Date

open Date

/-- Counting days from the epoch, forwards and backwards. -/
def dateAt (n : Int) : Date := (tomorrow ^ n) epoch

theorem dateAt_zero : dateAt 0 = epoch := rfl

theorem dateAt_succ (n : Int) : dateAt (n + 1) = (dateAt n).next := by
  rw [dateAt, Int.add_comm, zpow_one_add]
  rfl

section DayNumber

def daysBeforeYear (year : Int) : Int :=
  365 * (year - 1) + (year - 1) / 4 - (year - 1) / 100 + (year - 1) / 400

def daysBeforeMonth (year month : Int) : Int :=
  (367 * month - 362) / 12 - if month ≤ 2 then 0 else if LeapYear year then 1 else 2

def yearLength (year : Int) : Int := if LeapYear year then 366 else 365

theorem daysBeforeYear_succ (year : Int) :
    daysBeforeYear (year + 1) = daysBeforeYear year + yearLength year := by
  unfold daysBeforeYear yearLength LeapYear
  split_ifs <;> omega

theorem daysBeforeYear_mono {year year' : Int} (h : year ≤ year') :
    daysBeforeYear year ≤ daysBeforeYear year' := by
  unfold daysBeforeYear
  omega

theorem daysBeforeMonth_succ (year : Int) {month : Int} (h1 : 1 ≤ month) (h2 : month ≤ 12) :
    daysBeforeMonth year (month + 1) = daysBeforeMonth year month + monthLength year month := by
  -- the formula is checked month by month
  by_cases hleap : LeapYear year
  · interval_cases month <;> simp [daysBeforeMonth, monthLength, hleap]
  · interval_cases month <;> simp [daysBeforeMonth, monthLength, hleap]

theorem daysBeforeMonth_mono (year : Int) {month month' : Int} (h1 : 1 ≤ month)
    (h : month ≤ month') : daysBeforeMonth year month ≤ daysBeforeMonth year month' := by
  unfold daysBeforeMonth
  split_ifs <;> omega

theorem daysBeforeMonth_january (year : Int) : daysBeforeMonth year 1 = 0 := rfl

theorem daysBeforeMonth_thirteen (year : Int) : daysBeforeMonth year 13 = yearLength year := by
  unfold daysBeforeMonth yearLength
  split_ifs <;> omega

namespace Date

def dayNumber (d : Date) : Int :=
  daysBeforeYear d.year + daysBeforeMonth d.year d.month + d.day - 719163

theorem dayNumber_epoch : epoch.dayNumber = 0 := by decide

theorem dayNumber_next (d : Date) : d.next.dayNumber = d.dayNumber + 1 := by
  have hday' := d.day_le
  have hmonths := daysBeforeMonth_succ d.year d.one_le_month d.month_le
  unfold next
  split_ifs with hinside hyear
  · simp only [dayNumber]
    omega
  · simp only [dayNumber, hmonths]
    omega
  · have hlast : d.month = 12 := by
      have hmonth' := d.month_le
      omega
    have hyears := daysBeforeYear_succ d.year
    have hmonths13 := daysBeforeMonth_thirteen d.year
    rw [hlast] at hmonths hinside hday'
    simp only [dayNumber, daysBeforeMonth_january, hlast]
    change daysBeforeMonth d.year 13 = _ at hmonths
    omega

theorem dayNumber_prev (d : Date) : d.prev.dayNumber = d.dayNumber - 1 := by
  have h := dayNumber_next d.prev
  rw [next_prev] at h
  omega

/-- An earlier date has a smaller number: what is left of its month and of its year
is passed on the way to the later one. -/
theorem dayNumber_lt_of_month_lt {d d' : Date} (hyear : d.year = d'.year)
    (h : d.month < d'.month) : d.dayNumber < d'.dayNumber := by
  have hday := d.day_le
  have hday' := d'.one_le_day
  have hmonths := daysBeforeMonth_succ d.year d.one_le_month d.month_le
  have hmonth := d.one_le_month
  have hmono := daysBeforeMonth_mono d.year (by omega : 1 ≤ d.month + 1) h
  rw [dayNumber, dayNumber, ← hyear]
  omega

theorem dayNumber_lt_of_year_lt {d d' : Date} (h : d.year < d'.year) :
    d.dayNumber < d'.dayNumber := by
  have hday := d.day_le
  have hday' := d'.one_le_day
  have hmonths := daysBeforeMonth_succ d.year d.one_le_month d.month_le
  have hmonth := d.one_le_month
  have hmonth' := d.month_le
  have hrest := daysBeforeMonth_mono d.year (by omega : 1 ≤ d.month + 1)
    (by omega : d.month + 1 ≤ 13)
  have hbegun := daysBeforeMonth_mono d'.year le_rfl d'.one_le_month
  have hyears := daysBeforeYear_succ d.year
  have hmono : daysBeforeYear (d.year + 1) ≤ daysBeforeYear d'.year := daysBeforeYear_mono h
  rw [daysBeforeMonth_thirteen] at hrest
  rw [daysBeforeMonth_january] at hbegun
  rw [dayNumber, dayNumber]
  omega

def Before (d d' : Date) : Prop :=
  d.year < d'.year ∨ d.year = d'.year ∧ (d.month < d'.month ∨ d.month = d'.month ∧ d.day < d'.day)

theorem Before.dayNumber_lt {d d' : Date} (h : d.Before d') : d.dayNumber < d'.dayNumber := by
  obtain hyear | ⟨hyear, hmonth | ⟨hmonth, hday⟩⟩ := h
  · exact dayNumber_lt_of_year_lt hyear
  · exact dayNumber_lt_of_month_lt hyear hmonth
  · rw [dayNumber, dayNumber, hyear, hmonth]
    omega

theorem before_trichotomy (d d' : Date) : d.Before d' ∨ d = d' ∨ d'.Before d := by
  unfold Before
  rw [Date.ext_iff]
  omega

theorem dayNumber_injective : Function.Injective dayNumber := by
  intro d d' h
  obtain hbefore | heq | hafter := before_trichotomy d d'
  · exact absurd h (ne_of_lt hbefore.dayNumber_lt)
  · exact heq
  · exact absurd h.symm (ne_of_lt hafter.dayNumber_lt)

end Date

theorem dayNumber_dateAt (n : Int) : (dateAt n).dayNumber = n := by
  induction n using Int.induction_on with
  | zero => exact dayNumber_epoch
  | succ i ih => rw [dateAt_succ, dayNumber_next, ih]
  | pred i ih =>
    have hprev : dateAt (-i - 1) = (dateAt (-i)).prev := by
      have hsucc := dateAt_succ (-i - 1)
      rw [Int.sub_add_cancel] at hsucc
      rw [hsucc, prev_next]
    rw [hprev, dayNumber_prev, ih]

theorem dateAt_dayNumber (d : Date) : dateAt d.dayNumber = d :=
  dayNumber_injective (dayNumber_dateAt d.dayNumber)

theorem dateAt_bijective : Function.Bijective dateAt :=
  Function.bijective_iff_has_inverse.mpr ⟨dayNumber, dayNumber_dateAt, dateAt_dayNumber⟩

end DayNumber

end EnvelopeLite.Calendar
