set_option autoImplicit false

/-!
# Time: the calendar

Dates of the proleptic Gregorian calendar from year 1 to year 9999, their ordinal
number (the first day of year 1 is day 1) and the week calendar, whose weeks start
on Monday and whose first week holds the year's first Thursday.
-/

namespace SqlGateway.Time

def isLeapYear (y : Nat) : Bool := y % 4 == 0 && (y % 100 != 0 || y % 400 == 0)

/-- Days of a month; zero for a month that does not exist. -/
def daysInMonth (year month : Nat) : Nat :=
  if month == 2 then if isLeapYear year then 29 else 28
  else if month == 4 || month == 6 || month == 9 || month == 11 then 30
  else if 1 ≤ month && month ≤ 12 then 31 else 0

/-- The three numbers name a day of the calendar. -/
def IsDate (year month day : Nat) : Prop :=
  1 ≤ year ∧ year ≤ 9999 ∧ 1 ≤ month ∧ month ≤ 12 ∧ 1 ≤ day ∧ day ≤ daysInMonth year month

instance (y m d : Nat) : Decidable (IsDate y m d) := inferInstanceAs (Decidable (_ ∧ _))

/-- A day of the calendar. -/
structure Date where
  year : Nat
  month : Nat
  day : Nat
  valid : IsDate year month day
  deriving DecidableEq, Repr

namespace Date

def mk? (year month day : Nat) : Option Date :=
  if h : IsDate year month day then some ⟨year, month, day, h⟩ else none

/-- Days before a year. -/
def daysBeforeYear (year : Int) : Int :=
  let y := year - 1
  y * 365 + y / 4 - y / 100 + y / 400

/-- Days of a year before a month. -/
def daysBeforeMonth (year month : Nat) : Nat :=
  (List.range (month - 1)).foldl (fun days m => days + daysInMonth year (m + 1)) 0

/-- The ordinal of a date: the first day of year 1 is day 1. -/
def ordinal (d : Date) : Int := daysBeforeYear d.year + daysBeforeMonth d.year d.month + d.day

/-- Find the month that holds a day of the year, counted from zero. -/
def monthOfDay (year : Nat) : Nat → Nat → Nat → Nat × Nat
  | 0, month, day => (month, day)
  | fuel + 1, month, day =>
    if day < daysInMonth year month then (month, day)
    else monthOfDay year fuel (month + 1) (day - daysInMonth year month)

/-- The date of an ordinal, if it lies in the years 1 to 9999. -/
def ofOrdinal? (n : Int) : Option Date :=
  if n < 1 then none
  else
    let n := (n - 1).toNat
    let n400 := n / 146097
    let r := n % 146097
    let n100 := r / 36524
    let r100 := r % 36524
    let n4 := r100 / 1461
    let r4 := r100 % 1461
    let n1 := r4 / 365
    let day := r4 % 365
    let year := n400 * 400 + n100 * 100 + n4 * 4 + n1 + 1
    if n1 == 4 || n100 == 4 then mk? (year - 1) 12 31
    else
      let (month, day) := monthOfDay year 12 1 day
      mk? year month (day + 1)

/-- Weekday of an ordinal: Monday is zero. -/
def weekday (ordinal : Int) : Nat := ((ordinal + 6) % 7).toNat

/-- The ordinal of the Monday that starts the first week of a year. -/
def firstMonday (year : Int) : Int :=
  let first := daysBeforeYear year + 1
  let wd : Int := weekday first
  if wd > 3 then first - wd + 7 else first - wd

/-- The year has a fifty-third week: it starts on a Thursday, or on a Wednesday in a leap
year. -/
def hasLongWeekYear (year : Nat) : Bool :=
  let wd := weekday (daysBeforeYear year + 1)
  wd == 3 || (wd == 2 && isLeapYear year)

/-- The date of a day of a week of a year. -/
def ofWeek? (year week day : Nat) : Option Date :=
  if week == 0 || 53 < week || (week == 53 && !hasLongWeekYear year) then none
  else if day == 0 || 7 < day then none
  else ofOrdinal? (firstMonday year + ((week - 1) * 7 + (day - 1) : Nat))

end Date

/-- The numbers name a time of day. -/
def IsTime (hour minute second micro : Nat) : Prop :=
  hour < 24 ∧ minute < 60 ∧ second < 60 ∧ micro < 1000000

instance (h m s u : Nat) : Decidable (IsTime h m s u) := inferInstanceAs (Decidable (_ ∧ _))

/-- A time of day to the microsecond. -/
structure Clock where
  hour : Nat
  minute : Nat
  second : Nat
  micro : Nat
  valid : IsTime hour minute second micro
  deriving DecidableEq, Repr

namespace Clock

def mk? (hour minute second micro : Nat) : Option Clock :=
  if h : IsTime hour minute second micro then some ⟨hour, minute, second, micro, h⟩ else none

def midnight : Clock := ⟨0, 0, 0, 0, by decide⟩

/-- Microseconds since midnight. -/
def micros (c : Clock) : Nat := ((c.hour * 60 + c.minute) * 60 + c.second) * 1000000 + c.micro

end Clock

/-- Microseconds of a day. -/
def microsPerDay : Nat := 86400000000

/-- A distance from universal time, less than a day either way, in microseconds. -/
structure Offset where
  micros : Int
  valid : -(microsPerDay : Int) < micros ∧ micros < microsPerDay
  deriving DecidableEq, Repr

namespace Offset

def mk? (micros : Int) : Option Offset :=
  if h : -(microsPerDay : Int) < micros ∧ micros < microsPerDay then some ⟨micros, h⟩ else none

def utc : Offset := ⟨0, by decide⟩

end Offset

/-- A point on the calendar and the clock, at a known distance from universal time or at
none. -/
structure DateTime where
  date : Date
  clock : Clock
  offset : Option Offset
  deriving DecidableEq, Repr

namespace DateTime

/-- Microseconds from the start of year 1, as the local clock shows them. -/
def localMicros (t : DateTime) : Int := t.date.ordinal * microsPerDay + t.clock.micros

/-- Two times are the same instant: both local with equal fields, or both with an offset
and equal in universal time. -/
def sameInstant (s t : DateTime) : Bool :=
  match s.offset, t.offset with
  | none, none => s.localMicros == t.localMicros
  | some a, some b => s.localMicros - a.micros == t.localMicros - b.micros
  | _, _ => false

end DateTime

end SqlGateway.Time
