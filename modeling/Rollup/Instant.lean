namespace Rollup

/-- Seconds since the beginning of 1970 and the nanoseconds after them. A leap second is counted
as a second billion of nanoseconds of the second before it. -/
structure Instant where
  secs : Int
  nanos : Nat
deriving DecidableEq, Repr, Inhabited

namespace Instant

/-- Instants come in the order of their seconds, then of their nanoseconds. -/
protected def Before (a b : Instant) : Prop :=
  a.secs < b.secs ∨ a.secs = b.secs ∧ a.nanos < b.nanos

instance : LT Instant := ⟨Instant.Before⟩

instance (a b : Instant) : Decidable (a < b) :=
  inferInstanceAs (Decidable (_ ∨ _ ∧ _))

theorem lt_iff {a b : Instant} :
    a < b ↔ a.secs < b.secs ∨ a.secs = b.secs ∧ a.nanos < b.nanos := Iff.rfl

end Instant

namespace Calendar

/-- Whether a year has a 29th of February. -/
def IsLeapYear (year : Int) : Prop := year % 4 = 0 ∧ (year % 100 ≠ 0 ∨ year % 400 = 0)

instance (year : Int) : Decidable (IsLeapYear year) := inferInstanceAs (Decidable (_ ∧ _))

/-- The number of days of a month, January being 1; no other number is a month. -/
def daysInMonth (year : Int) : Nat → Nat
  | 1 | 3 | 5 | 7 | 8 | 10 | 12 => 31
  | 4 | 6 | 9 | 11 => 30
  | 2 => if IsLeapYear year then 29 else 28
  | _ => 0

/-- The number of days from the beginning of year 1 to the beginning of a year. -/
def daysBeforeYear (year : Int) : Int :=
  let past := year - 1
  365 * past + past / 4 - past / 100 + past / 400

/-- How many days of a year come before a month. -/
def daysBeforeMonth (year : Int) : Nat → Nat
  | 0 => 0
  | month + 1 => daysBeforeMonth year month + daysInMonth year month

/-- The years that a date can lie in. -/
def YearInRange (year : Int) : Prop := -262143 ≤ year ∧ year ≤ 262142

instance (year : Int) : Decidable (YearInRange year) := inferInstanceAs (Decidable (_ ∧ _))

/-- A date of the calendar, and a time of day whose second may be a leap second. -/
structure DateTime where
  year : Int
  month : Nat
  day : Nat
  hour : Nat
  minute : Nat
  second : Nat
deriving DecidableEq, Repr

namespace DateTime

/-- Whether the calendar has the day and the clock the time. -/
def Exists (t : DateTime) : Prop :=
  YearInRange t.year ∧ 1 ≤ t.day ∧ t.day ≤ daysInMonth t.year t.month ∧ t.hour ≤ 23 ∧
    t.minute ≤ 59 ∧ t.second ≤ 60

instance (t : DateTime) : Decidable t.Exists := inferInstanceAs (Decidable (_ ∧ _))

/-- The number of days from the beginning of 1970. -/
def daysSince1970 (t : DateTime) : Int :=
  daysBeforeYear t.year - daysBeforeYear 1970 + daysBeforeMonth t.year t.month + t.day - 1

/-- The instant that a date and a time of day name. A leap second prolongs the second before it. -/
def instant (t : DateTime) : Instant where
  secs := 86400 * t.daysSince1970 + 3600 * t.hour + 60 * t.minute + min t.second 59
  nanos := if t.second = 60 then 1000000000 else 0

end DateTime

end Calendar

end Rollup

namespace Rollup.Calendar

/-- A year, a month and a day, be they in the calendar or not. -/
structure Date where
  year : Int
  month : Nat
  day : Nat
deriving DecidableEq, Repr

namespace Date

/-- Whether the calendar has the day. -/
def Exists (d : Date) : Prop := 1 ≤ d.day ∧ d.day ≤ daysInMonth d.year d.month

instance (d : Date) : Decidable d.Exists := inferInstanceAs (Decidable (_ ∧ _))

/-- The day after. -/
def next (d : Date) : Date :=
  if d.day < daysInMonth d.year d.month then { d with day := d.day + 1 }
  else if d.month < 12 then ⟨d.year, d.month + 1, 1⟩
  else ⟨d.year + 1, 1, 1⟩

/-- The day after so many days. -/
def later (d : Date) : Nat → Date
  | 0 => d
  | days + 1 => (d.later days).next

/-- Whether one comes to the second day by going so many days on from the first, or back if the
number is negative. -/
def Apart (first second : Date) : Int → Prop
  | .ofNat days => first.later days = second
  | .negSucc days => second.later (days + 1) = first

/-- The first day of 1970. -/
def epoch : Date := ⟨1970, 1, 1⟩

end Date

def DateTime.date (t : DateTime) : Date := ⟨t.year, t.month, t.day⟩

/-- Whether a clock shows the time of day. A minute may end with a leap second. -/
def DateTime.IsOnClock (t : DateTime) : Prop := t.hour ≤ 23 ∧ t.minute ≤ 59 ∧ t.second ≤ 60

instance (t : DateTime) : Decidable t.IsOnClock := inferInstanceAs (Decidable (_ ∧ _))

end Rollup.Calendar
