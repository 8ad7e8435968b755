import Mathlib.Algebra.GroupWithZero.Nat
import Mathlib.Data.List.Basic

/-!
# Calendar dates and times of day

Dates of the proleptic Gregorian calendar between the years 1 and 9999, the
number of a day counted from the first of them, and points in time with a
resolution of one microsecond.  Every day in the range has one date, so adding
a span to a point in time is adding to its number.
-/

namespace Calendar

def minYear : Nat := 1

def maxYear : Nat := 9999

def isLeap (year : Nat) : Bool :=
  decide (year % 4 = 0) && (decide (year % 100 ≠ 0) || decide (year % 400 = 0))

def monthLengths (year : Nat) : List Nat :=
  [31, if isLeap year then 29 else 28, 31, 30, 31, 30, 31, 31, 30, 31, 30, 31]

def daysInMonth (year month : Nat) : Nat :=
  (monthLengths year).getD (month - 1) 0

def daysInYear (year : Nat) : Nat :=
  if isLeap year then 366 else 365

/-- The days of all years before a year. -/
def daysBeforeYear (year : Nat) : Nat :=
  (year - 1) * 365 + (year - 1) / 4 - (year - 1) / 100 + (year - 1) / 400

/-- The days of a year before a month. -/
def daysBeforeMonth (year month : Nat) : Nat :=
  ((monthLengths year).take (month - 1)).sum

@[ext] structure Date where
  year : Nat
  month : Nat
  day : Nat
  yearRange : minYear ≤ year ∧ year ≤ maxYear
  monthRange : 1 ≤ month ∧ month ≤ 12
  dayRange : 1 ≤ day ∧ day ≤ daysInMonth year month

theorem yearRange_2026 : minYear ≤ 2026 ∧ 2026 ≤ maxYear := by decide

theorem monthRange_january : 1 ≤ 1 ∧ 1 ≤ 12 := by decide

theorem monthRange_june : 1 ≤ 6 ∧ 6 ≤ 12 := by decide

/-- The date with these numbers, if there is one. -/
def Date.ofNumbers? (year month day : Nat) : Option Date :=
  if range : (minYear ≤ year ∧ year ≤ maxYear) ∧ (1 ≤ month ∧ month ≤ 12) ∧
      1 ≤ day ∧ day ≤ daysInMonth year month then
    some
      { year := year
        month := month
        day := day
        yearRange := range.1
        monthRange := range.2.1
        dayRange := range.2.2 }
  else none

/-- The number of a day; the first of January of the year 1 has the number 1. -/
def Date.toOrdinal (date : Date) : Nat :=
  daysBeforeYear date.year + daysBeforeMonth date.year date.month + date.day

def maxOrdinal : Nat := 3652059

theorem daysInMonth_le (year month : Nat) : daysInMonth year month ≤ 31 := by
  have each : ∀ length ∈ monthLengths year, length ≤ 31 := by
    unfold monthLengths
    split <;> simp
  rw [daysInMonth, List.getD_eq_getElem?_getD]
  cases found : (monthLengths year)[month - 1]? with
  | none => simp
  | some length => exact each length (List.mem_of_getElem? found)

/-- The months that end up to a day, counted from zero, and the days left. -/
def splitMonths : List Nat → Nat → Nat × Nat
  | [], day => (0, day)
  | length :: lengths, day =>
      if day < length then (0, day)
      else
        let (months, left) := splitMonths lengths (day - length)
        (months + 1, left)

/-- The years that end up to a day, counted from zero, and the days left.  The
last year of a century, of four years or of four centuries may be a day longer
than the others. -/
def splitYears (days : Nat) : Nat × Nat :=
  let cycles := days / 146097
  let inCycle := days % 146097
  let centuries := min 3 (inCycle / 36524)
  let inCentury := inCycle - 36524 * centuries
  let quads := inCentury / 1461
  let inQuad := inCentury % 1461
  let years := min 3 (inQuad / 365)
  (400 * cycles + 100 * centuries + 4 * quads + years, inQuad - 365 * years)

private theorem sum_take_add_getD_le (lengths : List Nat) (position : Nat) :
    (lengths.take position).sum + lengths.getD position 0 ≤ lengths.sum := by
  induction lengths generalizing position with
  | nil => simp
  | cons length lengths induction =>
      cases position with
      | zero => simp
      | succ position =>
          have later := induction position
          simp only [List.take_succ_cons, List.sum_cons, List.getD_cons_succ]
          omega

/-- The date of a day. -/
def Date.ofOrdinal? (ordinal : Nat) : Option Date :=
  if 1 ≤ ordinal ∧ ordinal ≤ maxOrdinal then
    let (years, dayOfYear) := splitYears (ordinal - 1)
    let (months, left) := splitMonths (monthLengths (years + 1)) dayOfYear
    Date.ofNumbers? (years + 1) (months + 1) (left + 1)
  else none

theorem sum_monthLengths (year : Nat) : (monthLengths year).sum = daysInYear year := by
  unfold monthLengths daysInYear
  split <;> rfl

/-- The day lies in the month that was found. -/
theorem splitMonths_spec
    {lengths : List Nat} {day : Nat} (inside : day < lengths.sum) :
    (splitMonths lengths day).1 < lengths.length ∧
      (splitMonths lengths day).2 < lengths.getD (splitMonths lengths day).1 0 ∧
      (lengths.take (splitMonths lengths day).1).sum + (splitMonths lengths day).2 = day := by
  induction lengths generalizing day with
  | nil => simp at inside
  | cons length lengths induction =>
      unfold splitMonths
      split
      next short => simpa using short
      next long =>
        have rest : day - length < lengths.sum := by
          simp only [List.sum_cons] at inside
          omega
        obtain ⟨month, left, whole⟩ := induction rest
        refine ⟨by simpa using month, by simpa using left, ?_⟩
        simp only [List.take_succ_cons, List.sum_cons]
        omega

/-- The cycles, centuries, quads and years up to a day.  Only the last year of a
quad that is not cut off by its century has a day 365. -/
private theorem splitYears_parts (days : Nat) :
    ∃ cycles centuries quads years left,
      splitYears days = (400 * cycles + 100 * centuries + 4 * quads + years, left) ∧
        centuries ≤ 3 ∧ quads ≤ 24 ∧ years ≤ 3 ∧
        days = 146097 * cycles + 36524 * centuries + 1461 * quads + 365 * years + left ∧
        (left < 365 ∨ left = 365 ∧ years = 3 ∧ (quads = 24 → centuries = 3)) := by
  have short : days % 146097 < 146097 := Nat.mod_lt _ (by simp)
  have century : min 3 (days % 146097 / 36524) ≤ 3 := Nat.min_le_left _ _
  have inCentury : days % 146097 =
      36524 * min 3 (days % 146097 / 36524) +
        (days % 146097 - 36524 * min 3 (days % 146097 / 36524)) := by omega
  have centuryShort : days % 146097 - 36524 * min 3 (days % 146097 / 36524) < 36524 ∨
      min 3 (days % 146097 / 36524) = 3 ∧
        days % 146097 - 36524 * min 3 (days % 146097 / 36524) < 36525 := by omega
  unfold splitYears
  dsimp only
  generalize min 3 (days % 146097 / 36524) = centuries at *
  generalize days % 146097 - 36524 * centuries = rest at *
  have quad : rest / 1461 ≤ 24 := by omega
  refine ⟨days / 146097, centuries, rest / 1461, min 3 (rest % 1461 / 365), _, rfl, century,
    quad, Nat.min_le_left _ _, by omega, by omega⟩

/-- The day lies in the year that was found. -/
theorem splitYears_spec (days : Nat) :
    (splitYears days).2 < daysInYear ((splitYears days).1 + 1) ∧
      daysBeforeYear ((splitYears days).1 + 1) + (splitYears days).2 = days := by
  obtain ⟨cycles, centuries, quads, years, left, split, century, quad, year, rfl, last⟩ :=
    splitYears_parts days
  have fourths : (400 * cycles + 100 * centuries + 4 * quads + years) / 4 =
      100 * cycles + 25 * centuries + quads := by omega
  have hundredths : (400 * cycles + 100 * centuries + 4 * quads + years) / 100 =
      4 * cycles + centuries := by omega
  have cyclesBefore : (400 * cycles + 100 * centuries + 4 * quads + years) / 400 = cycles := by
    omega
  simp only [split, daysBeforeYear, Nat.add_sub_cancel, fourths, hundredths, cyclesBefore]
  refine ⟨?_, by omega⟩
  rcases last with short | ⟨rfl, rfl, whole⟩
  · unfold daysInYear
    split <;> omega
  · have leap : isLeap (400 * cycles + 100 * centuries + 4 * quads + 3 + 1) = true := by
      simp only [isLeap, Bool.and_eq_true, Bool.or_eq_true, decide_eq_true_eq]
      omega
    simp [daysInYear, leap]

theorem splitYears_le_maxYear {days : Nat} (inside : days < maxOrdinal) :
    (splitYears days).1 + 1 ≤ maxYear := by
  simp only [splitYears, maxYear, maxOrdinal] at inside ⊢
  omega

/-- Every date has a number in the range. -/
theorem toOrdinal_inRange (date : Date) : 1 ≤ date.toOrdinal ∧ date.toOrdinal ≤ maxOrdinal := by
  have year := date.yearRange
  have day := date.dayRange
  have inYear := sum_take_add_getD_le (monthLengths date.year) (date.month - 1)
  rw [sum_monthLengths] at inYear
  have before : daysBeforeYear date.year + daysInYear date.year ≤ maxOrdinal := by
    simp only [daysBeforeYear, daysInYear, isLeap, maxOrdinal, minYear, maxYear,
      Bool.and_eq_true, Bool.or_eq_true, decide_eq_true_eq] at year ⊢
    split <;> omega
  simp only [Date.toOrdinal, daysBeforeMonth, daysInMonth] at day ⊢
  omega

/-- Every day in the range has a date with its number. -/
theorem ofOrdinal?_spec
    {ordinal : Nat} (positive : 1 ≤ ordinal) (bounded : ordinal ≤ maxOrdinal) :
    ∃ date, Date.ofOrdinal? ordinal = some date ∧ date.toOrdinal = ordinal := by
  obtain ⟨inYear, wholeYears⟩ := splitYears_spec (ordinal - 1)
  have lastYear := @splitYears_le_maxYear (ordinal - 1) (by omega)
  rw [← sum_monthLengths] at inYear
  obtain ⟨inMonths, inMonth, wholeMonths⟩ := splitMonths_spec inYear
  have twelve : (monthLengths ((splitYears (ordinal - 1)).1 + 1)).length = 12 := rfl
  have range : (minYear ≤ (splitYears (ordinal - 1)).1 + 1 ∧
      (splitYears (ordinal - 1)).1 + 1 ≤ maxYear) ∧
      (1 ≤ (splitMonths (monthLengths ((splitYears (ordinal - 1)).1 + 1))
          (splitYears (ordinal - 1)).2).1 + 1 ∧
        (splitMonths (monthLengths ((splitYears (ordinal - 1)).1 + 1))
          (splitYears (ordinal - 1)).2).1 + 1 ≤ 12) ∧
      1 ≤ (splitMonths (monthLengths ((splitYears (ordinal - 1)).1 + 1))
          (splitYears (ordinal - 1)).2).2 + 1 ∧
        (splitMonths (monthLengths ((splitYears (ordinal - 1)).1 + 1))
          (splitYears (ordinal - 1)).2).2 + 1 ≤
          daysInMonth ((splitYears (ordinal - 1)).1 + 1)
            ((splitMonths (monthLengths ((splitYears (ordinal - 1)).1 + 1))
              (splitYears (ordinal - 1)).2).1 + 1) := by
    refine ⟨⟨by simp [minYear], lastYear⟩, ⟨by omega, by omega⟩, by omega, ?_⟩
    exact inMonth
  refine ⟨_, by simp only [Date.ofOrdinal?, positive, bounded, and_self, if_true,
    Date.ofNumbers?, dif_pos range]; rfl, ?_⟩
  simp only [Date.toOrdinal, daysBeforeMonth, Nat.add_sub_cancel]
  omega

/-- A point in time of one time zone. -/
@[ext] structure DateTime where
  date : Date
  hour : Nat
  minute : Nat
  second : Nat
  microsecond : Nat
  hourRange : hour < 24
  minuteRange : minute < 60
  secondRange : second < 60
  microsecondRange : microsecond < 1000000

def Date.noon (date : Date) : DateTime :=
  { date := date
    hour := 12
    minute := 0
    second := 0
    microsecond := 0
    hourRange := by decide
    minuteRange := by decide
    secondRange := by decide
    microsecondRange := by decide }

/-- The point in time with these numbers, if there is one. -/
def DateTime.ofNumbers? (date : Date) (hour minute second microsecond : Nat) :
    Option DateTime :=
  if range : hour < 24 ∧ minute < 60 ∧ second < 60 ∧ microsecond < 1000000 then
    some
      { date := date
        hour := hour
        minute := minute
        second := second
        microsecond := microsecond
        hourRange := range.1
        minuteRange := range.2.1
        secondRange := range.2.2.1
        microsecondRange := range.2.2.2 }
  else none

theorem DateTime.ofNumbers?_self (time : DateTime) :
    DateTime.ofNumbers? time.date time.hour time.minute time.second time.microsecond =
      some time := by
  have range : time.hour < 24 ∧ time.minute < 60 ∧ time.second < 60 ∧
      time.microsecond < 1000000 :=
    ⟨time.hourRange, time.minuteRange, time.secondRange, time.microsecondRange⟩
  simp [DateTime.ofNumbers?, range]

theorem Date.ofNumbers?_self (date : Date) :
    Date.ofNumbers? date.year date.month date.day = some date := by
  simp [Date.ofNumbers?, date.yearRange, date.monthRange, date.dayRange]

def microsecondsPerDay : Nat := 86400000000

/-- The microseconds since the day zero. -/
def DateTime.instant (time : DateTime) : Nat :=
  time.date.toOrdinal * microsecondsPerDay +
    ((time.hour * 60 + time.minute) * 60 + time.second) * 1000000 + time.microsecond

/-- The instants that have a date. -/
def InRange (instant : Int) : Prop :=
  (microsecondsPerDay : Int) ≤ instant ∧
    instant < ((maxOrdinal + 1) * microsecondsPerDay : Nat)

instance (instant : Int) : Decidable (InRange instant) :=
  inferInstanceAs (Decidable (_ ∧ _))

def DateTime.ofInstant? (instant : Int) : Option DateTime := do
  let date ← Date.ofOrdinal? (instant.toNat / microsecondsPerDay)
  let clock := instant.toNat % microsecondsPerDay
  DateTime.ofNumbers? date (clock / 3600000000) (clock / 60000000 % 60)
    (clock / 1000000 % 60) (clock % 1000000)

/-- `time + timedelta(microseconds=span)`; there is none outside of the range. -/
def DateTime.add? (time : DateTime) (span : Int) : Option DateTime :=
  DateTime.ofInstant? (time.instant + span)

theorem inRange_instant (time : DateTime) : InRange time.instant := by
  obtain ⟨first, last⟩ := toOrdinal_inRange time.date
  have hour := time.hourRange
  have minute := time.minuteRange
  have second := time.secondRange
  have microsecond := time.microsecondRange
  simp only [InRange, DateTime.instant, microsecondsPerDay, maxOrdinal] at last ⊢
  omega

/-- An instant in the range is the instant of one point in time. -/
theorem ofInstant?_spec {instant : Int} (inRange : InRange instant) :
    ∃ time, DateTime.ofInstant? instant = some time ∧ (time.instant : Int) = instant := by
  obtain ⟨first, last⟩ := inRange
  simp only [microsecondsPerDay, maxOrdinal] at first last
  obtain ⟨date, found, ordinal⟩ := @ofOrdinal?_spec (instant.toNat / microsecondsPerDay)
    (by simp only [microsecondsPerDay]; omega)
    (by simp only [microsecondsPerDay, maxOrdinal]; omega)
  have range : instant.toNat % microsecondsPerDay / 3600000000 < 24 ∧
      instant.toNat % microsecondsPerDay / 60000000 % 60 < 60 ∧
      instant.toNat % microsecondsPerDay / 1000000 % 60 < 60 ∧
      instant.toNat % microsecondsPerDay % 1000000 < 1000000 := by
    simp only [microsecondsPerDay]
    omega
  refine ⟨_, by simp only [DateTime.ofInstant?, found, Option.bind_eq_bind, Option.bind_some,
    DateTime.ofNumbers?, dif_pos range]; rfl, ?_⟩
  simp only [DateTime.instant, ordinal, microsecondsPerDay]
  omega

theorem inRange_of_ofInstant?
    {instant : Int} {time : DateTime} (found : DateTime.ofInstant? instant = some time) :
    InRange instant := by
  by_contra outside
  have noDate : Date.ofOrdinal? (instant.toNat / microsecondsPerDay) = none := by
    refine if_neg ?_
    simp only [InRange, microsecondsPerDay, maxOrdinal] at outside ⊢
    omega
  simp [DateTime.ofInstant?, noDate] at found

/-- A sum that exists is the sum of the numbers. -/
theorem instant_add?
    {time later : DateTime} {span : Int} (added : time.add? span = some later) :
    (later.instant : Int) = time.instant + span := by
  obtain ⟨other, found, same⟩ := ofInstant?_spec (inRange_of_ofInstant? added)
  obtain rfl : other = later := by simpa [found, DateTime.add?] using added
  exact same

end Calendar
