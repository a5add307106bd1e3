import Mathlib.Tactic.IntervalCases
import Rollup.Instant

namespace Rollup.Calendar

theorem daysInMonth_pos {year : Int} {month : Nat} (hfirst : 1 ≤ month) (hlast : month ≤ 12) :
    1 ≤ daysInMonth year month := by
  rcases eq_or_ne month 2 with rfl | hmonth
  · rw [daysInMonth]
    split <;> omega
  · interval_cases month <;> simp [daysInMonth] at hmonth ⊢

theorem month_of_daysInMonth_pos {year : Int} {month : Nat} (h : 1 ≤ daysInMonth year month) :
    1 ≤ month ∧ month ≤ 12 := by
  by_contra hmonth
  have hzero : daysInMonth year month = 0 := by
    rw [daysInMonth]
    all_goals omega
  omega

theorem daysBeforeMonth_succ (year : Int) (month : Nat) :
    daysBeforeMonth year (month + 1) = daysBeforeMonth year month + daysInMonth year month := rfl

theorem daysBeforeMonth_le {year : Int} {first second : Nat} (h : first ≤ second) :
    daysBeforeMonth year first ≤ daysBeforeMonth year second := by
  induction second, h using Nat.le_induction with
  | base => exact Nat.le_refl _
  | succ second hle ih =>
      rw [daysBeforeMonth_succ]
      omega

theorem daysBeforeYear_add_one (year : Int) :
    daysBeforeYear (year + 1) = daysBeforeYear year + daysBeforeMonth year 13 := by
  simp only [daysBeforeYear, daysBeforeMonth, daysInMonth]
  by_cases hleap : IsLeapYear year
  · rw [if_pos hleap]
    rw [IsLeapYear] at hleap
    omega
  · rw [if_neg hleap]
    rw [IsLeapYear] at hleap
    omega

theorem daysBeforeYear_le {first second : Int} (h : first ≤ second) :
    daysBeforeYear first ≤ daysBeforeYear second := by
  induction second, h using Int.leInduction with
  | base => exact Int.le_refl _
  | succ second hle ih =>
      rw [daysBeforeYear_add_one]
      omega

namespace Date

/-- The number of a day. Going on by one day adds one to it. -/
def number (d : Date) : Int := daysBeforeYear d.year + daysBeforeMonth d.year d.month + d.day

theorem Exists.month {d : Date} (h : d.Exists) : 1 ≤ d.month ∧ d.month ≤ 12 :=
  month_of_daysInMonth_pos (h.1.trans h.2)

theorem Exists.next {d : Date} (h : d.Exists) : d.next.Exists := by
  rcases h.month with ⟨hfirst, hlast⟩
  rw [Date.next]
  split
  · next hday => exact ⟨Nat.le_add_left 1 d.day, hday⟩
  · split
    · next hmonth => exact ⟨Nat.le_refl 1, daysInMonth_pos (Nat.le_add_left 1 d.month) hmonth⟩
    · exact ⟨Nat.le_refl 1, daysInMonth_pos (Nat.le_refl 1) (Nat.le_add_left 1 11)⟩

theorem number_next {d : Date} (h : d.Exists) : d.next.number = d.number + 1 := by
  have hday := h.2
  rw [Date.next]
  by_cases hlast : d.day < daysInMonth d.year d.month
  · rw [if_pos hlast]
    simp only [number]
    omega
  rw [if_neg hlast]
  by_cases hmonth : d.month < 12
  · rw [if_pos hmonth]
    simp only [number, daysBeforeMonth_succ]
    omega
  · have hdecember : d.month = 12 := Nat.le_antisymm h.month.2 (Nat.le_of_not_lt hmonth)
    have hjanuary : daysBeforeMonth (d.year + 1) 1 = 0 := rfl
    have hyear :
        daysBeforeMonth d.year 13 = daysBeforeMonth d.year 12 + daysInMonth d.year 12 := rfl
    rw [hdecember] at hday hlast
    rw [if_neg hmonth]
    simp only [number, daysBeforeYear_add_one, hjanuary, hdecember]
    omega

theorem later_spec {d : Date} (h : d.Exists) (days : Nat) :
    (d.later days).Exists ∧ (d.later days).number = d.number + days := by
  induction days with
  | zero => exact ⟨h, (Int.add_zero _).symm⟩
  | succ days ih =>
      rcases ih with ⟨hlater, hnumber⟩
      refine ⟨hlater.next, ?_⟩
      rw [later, number_next hlater, hnumber]
      omega

/-- Dates compared by year, month and day. -/
protected def Before (a b : Date) : Prop :=
  a.year < b.year ∨ a.year = b.year ∧
    (a.month < b.month ∨ a.month = b.month ∧ a.day < b.day)

theorem number_lt_of_before {a b : Date} (ha : a.Exists) (hb : b.Exists) (h : a.Before b) :
    a.number < b.number := by
  have hday : daysBeforeMonth a.year a.month + a.day ≤ daysBeforeMonth a.year (a.month + 1) := by
    rw [daysBeforeMonth_succ]
    exact Nat.add_le_add_left ha.2 _
  have hfirst := hb.1
  rcases h with hyear | ⟨hyear, hmonth | ⟨hmonth, hlt⟩⟩
  · have hrest : daysBeforeMonth a.year (a.month + 1) ≤ daysBeforeMonth a.year 13 :=
      daysBeforeMonth_le (Nat.succ_le_succ ha.month.2)
    have hnext := daysBeforeYear_add_one a.year
    have hle : daysBeforeYear (a.year + 1) ≤ daysBeforeYear b.year := daysBeforeYear_le hyear
    simp only [number]
    omega
  · have hle : daysBeforeMonth a.year (a.month + 1) ≤ daysBeforeMonth a.year b.month :=
      daysBeforeMonth_le hmonth
    simp only [number, ← hyear]
    omega
  · simp only [number, hyear, hmonth]
    omega

theorem before_trichotomy (a b : Date) : a.Before b ∨ a = b ∨ b.Before a := by
  rcases a with ⟨year, month, day⟩
  rcases b with ⟨year', month', day'⟩
  simp only [Date.Before, Date.mk.injEq]
  omega

theorem number_lt_iff {a b : Date} (ha : a.Exists) (hb : b.Exists) :
    a.number < b.number ↔ a.Before b := by
  refine ⟨fun h => ?_, number_lt_of_before ha hb⟩
  rcases before_trichotomy a b with hbefore | rfl | hafter
  · exact hbefore
  · omega
  · have := number_lt_of_before hb ha hafter
    omega

theorem number_inj {a b : Date} (ha : a.Exists) (hb : b.Exists) :
    a.number = b.number ↔ a = b := by
  refine ⟨fun h => ?_, fun h => by rw [h]⟩
  rcases before_trichotomy a b with hbefore | heq | hafter
  · have := number_lt_of_before ha hb hbefore
    omega
  · exact heq
  · have := number_lt_of_before hb ha hafter
    omega

theorem later_eq_iff {a b : Date} (ha : a.Exists) (hb : b.Exists) (days : Nat) :
    a.later days = b ↔ b.number = a.number + days := by
  rcases later_spec ha days with ⟨hlater, hnumber⟩
  rw [← number_inj hlater hb, hnumber]
  exact eq_comm

theorem apart_iff {a b : Date} (ha : a.Exists) (hb : b.Exists) (days : Int) :
    Apart a b days ↔ b.number = a.number + days := by
  cases days with
  | ofNat days => exact later_eq_iff ha hb days
  | negSucc days =>
      rw [Apart, later_eq_iff hb ha]
      omega

end Date

namespace DateTime

theorem exists_iff {t : DateTime} :
    t.Exists ↔ YearInRange t.year ∧ t.date.Exists ∧ t.IsOnClock := by
  simp only [DateTime.Exists, Date.Exists, IsOnClock, date]
  constructor
  · rintro ⟨hyear, hfirst, hlast, hclock⟩
    exact ⟨hyear, ⟨hfirst, hlast⟩, hclock⟩
  · rintro ⟨hyear, ⟨hfirst, hlast⟩, hclock⟩
    exact ⟨hyear, hfirst, hlast, hclock⟩

theorem daysSince1970_eq (t : DateTime) :
    t.daysSince1970 = t.date.number - Date.epoch.number := by
  have hepoch : Date.epoch.number = daysBeforeYear 1970 + 1 := rfl
  rw [hepoch]
  simp only [daysSince1970, Date.number, date]
  omega

theorem apart_epoch_iff {t : DateTime} (h : t.date.Exists) (days : Int) :
    Date.epoch.Apart t.date days ↔ t.daysSince1970 = days := by
  have hepoch : Date.epoch.Exists := by decide
  rw [Date.apart_iff hepoch h, daysSince1970_eq]
  omega

/-- Timestamps compared field by field, from the year to the second. -/
protected def Before (a b : DateTime) : Prop :=
  a.date.Before b.date ∨ a.date = b.date ∧
    (a.hour < b.hour ∨ a.hour = b.hour ∧
      (a.minute < b.minute ∨ a.minute = b.minute ∧ a.second < b.second))

/-- Instants come in the order of their dates and times of day. A leap second comes between the
second that it shares its number with and the next one. -/
theorem instant_lt_iff {a b : DateTime} (ha : a.Exists) (hb : b.Exists) :
    a.instant < b.instant ↔ a.Before b := by
  rcases exists_iff.1 ha with ⟨-, hdate, hhour, hminute, hsecond⟩
  rcases exists_iff.1 hb with ⟨-, hdate', hhour', hminute', hsecond'⟩
  rw [DateTime.Before, ← Date.number_lt_iff hdate hdate', ← Date.number_inj hdate hdate',
    Instant.lt_iff]
  simp only [instant, daysSince1970_eq]
  split <;> split <;> omega

end DateTime

end Rollup.Calendar
