import SuperAdvisor.Foundation.Calendar
import SuperAdvisor.Foundation.PythonDict
import SuperAdvisor.Foundation.PythonText

/-!
# Points in time as ISO texts

The text of a point in time in UTC and the reader of such texts.  The reader
takes calendar and week dates with or without separators, any single character
before the time of day, a time of day with or without separators and fraction,
and an offset; it reads back what was written.
-/

namespace Python

open Calendar

/-- A number with leading zeros. -/
def padded : Nat → Nat → List Char
  | 0, _ => []
  | width + 1, number => padded width (number / 10) ++ [Nat.digitChar (number % 10)]

def isoDate (date : Date) : List Char :=
  padded 4 date.year ++ '-' :: (padded 2 date.month ++ '-' :: padded 2 date.day)

def isoFraction (microsecond : Nat) : List Char :=
  if microsecond = 0 then [] else '.' :: padded 6 microsecond

def isoTimeOfDay (time : DateTime) : List Char :=
  padded 2 time.hour ++ ':' :: (padded 2 time.minute ++ ':' :: (padded 2 time.second ++
    isoFraction time.microsecond))

/-- `value.isoformat()` without the offset -/
def isoClock (time : DateTime) : List Char :=
  isoDate time.date ++ 'T' :: isoTimeOfDay time

def utcOffset : List Char := "+00:00".toList

/-- `value.isoformat()` in UTC -/
def isoformat (time : DateTime) : List Char :=
  isoClock time ++ utcOffset

/-- `value.isoformat().replace("+00:00", "Z")` in UTC -/
def isoZ (time : DateTime) : List Char :=
  replaceText utcOffset ['Z'] (isoformat time)

/-- Read a number of exactly so many digits. -/
def readNumber (width : Nat) (text : List Char) : Option (Nat × List Char) :=
  if (text.take width).length = width ∧ (text.take width).all Char.isDigit then
    some (Nat.ofDigitChars 10 (text.take width) 0, text.drop width)
  else none

/-- Where the date ends.  The position follows from the fifth and the sixth
character; a week date may end with its week or its day. -/
def separatorLocation (text : List Char) : Option Nat :=
  if text.length = 7 then some 7
  else if text[4]? = some '-' then
    if text[5]? = some 'W' then
      if text[8]? = some '-' then
        if text.length = 9 then none
        else if (text[10]?).any Char.isDigit then some 8
        else some 10
      else some 8
    else some 10
  else if text[4]? = some 'W' then
    let position := 7 + ((text.drop 7).takeWhile Char.isDigit).length
    if position < 9 then some position
    else if position % 2 = 0 then some 7
    else some 8
  else some 8

/-- Monday of the first week: the week with the first Thursday of the year. -/
def firstMonday (year : Nat) : Nat :=
  let newYear := daysBeforeYear year + 1
  let weekday := (newYear + 6) % 7
  if weekday > 3 then newYear - weekday + 7 else newYear - weekday

/-- A year that begins on a Thursday, or a leap year that begins on a Wednesday. -/
def hasLongYear (year : Nat) : Bool :=
  let weekday := (daysBeforeYear year + 7) % 7
  decide (weekday = 3) || (decide (weekday = 2) && isLeap year)

def weekDate (year week day : Nat) : Option Date :=
  if (minYear ≤ year ∧ year ≤ maxYear) ∧
      ((1 ≤ week ∧ week ≤ 52) ∨ (week = 53 ∧ hasLongYear year)) ∧ 1 ≤ day ∧ day ≤ 7 then
    Date.ofOrdinal? (firstMonday year + (week - 1) * 7 + (day - 1))
  else none

/-- Skip a separator where one is due. -/
def skipSeparator (separator : Char) (due : Bool) (text : List Char) : Option (List Char) :=
  if due then
    match text with
    | symbol :: rest => if symbol = separator then some rest else none
    | [] => none
  else some text

@[simp] theorem skipSeparator_due (separator : Char) (rest : List Char) :
    skipSeparator separator true (separator :: rest) = some rest := by
  simp [skipSeparator]

def readDate (text : List Char) : Option Date := do
  let (year, rest) ← readNumber 4 text
  let separated := decide (rest.head? = some '-')
  let rest ← skipSeparator '-' separated rest
  match rest with
  | 'W' :: rest => do
      let (week, rest) ← readNumber 2 rest
      if rest.isEmpty then weekDate year week 1
      else do
        let rest ← skipSeparator '-' separated rest
        let (day, _) ← readNumber 1 rest
        weekDate year week day
  | rest => do
      let (month, rest) ← readNumber 2 rest
      let rest ← skipSeparator '-' separated rest
      let (day, _) ← readNumber 2 rest
      Date.ofNumbers? year month day

structure ClockNumbers where
  hour : Nat
  minute : Nat
  second : Nat
  microsecond : Nat

def ClockNumbers.microseconds (clock : ClockNumbers) : Nat :=
  ((clock.hour * 60 + clock.minute) * 60 + clock.second) * 1000000 + clock.microsecond

/-- The first six digits of a fraction. -/
def fractionMicroseconds (digits : List Char) : Nat :=
  Nat.ofDigitChars 10 (digits.take 6) 0 * 10 ^ (6 - digits.length)

/-- What may follow the seconds. -/
def readFraction (text : List Char) : Option Nat :=
  match text with
  | [] => some 0
  | mark :: digits =>
      if (mark = '.' ∨ mark = ',') ∧ !digits.isEmpty ∧ digits.all Char.isDigit then
        some (fractionMicroseconds digits)
      else none

/-- `HH[:MM[:SS[.ffffff]]]`, with all separators or none. -/
def readClock (text : List Char) : Option ClockNumbers := do
  let (hour, rest) ← readNumber 2 text
  if rest.isEmpty then some { hour := hour, minute := 0, second := 0, microsecond := 0 }
  else do
    let separated := decide (rest.head? = some ':')
    let rest ← skipSeparator ':' separated rest
    let (minute, rest) ← readNumber 2 rest
    if rest.isEmpty then
      some { hour := hour, minute := minute, second := 0, microsecond := 0 }
    else do
      let rest ← skipSeparator ':' separated rest
      let (second, rest) ← readNumber 2 rest
      let microsecond ← readFraction rest
      some { hour := hour, minute := minute, second := second, microsecond := microsecond }

def isZoneMark (symbol : Char) : Bool :=
  symbol == '+' || symbol == '-' || symbol == 'Z'

/-- An offset in microseconds, of less than a day. -/
def readOffset (text : List Char) : Option (Option Int) :=
  match text with
  | [] => some none
  | ['Z'] => some (some 0)
  | sign :: rest =>
      if sign = 'Z' then none
      else do
        let clock ← readClock rest
        if clock.microseconds < microsecondsPerDay then
          some (some (if sign = '-' then -(clock.microseconds : Int) else clock.microseconds))
        else none

/-- The point in time a text names and its offset from UTC, if it has one. -/
def readIso (text : List Char) : Option (DateTime × Option Int) :=
  if text.length < 7 then none
  else do
    let location ← separatorLocation text
    let date ← readDate (text.take location)
    let rest := text.drop (location + 1)
    if rest.isEmpty then do
      let time ← DateTime.ofNumbers? date 0 0 0 0
      some (time, none)
    else do
      let clock ← readClock (rest.takeWhile (fun symbol => !isZoneMark symbol))
      let offset ← readOffset (rest.dropWhile (fun symbol => !isZoneMark symbol))
      let time ← DateTime.ofNumbers? date clock.hour clock.minute clock.second clock.microsecond
      some (time, offset)

/-- `datetime.fromisoformat(text)`; the messages of its value errors are not
told apart. -/
def fromisoformat (text : String) : Except Failure (DateTime × Option Int) :=
  match readIso text.toList with
  | some time => .ok time
  | none => .error (.valueError ("Invalid isoformat string: " ++ quotedText text))

section Utc

variable (localInstant : DateTime → Except Failure Int)

/-- `time.astimezone(UTC)`, as an instant; a time without an offset is local. -/
def astimezoneUtc (time : DateTime × Option Int) : Except Failure Int :=
  match time.2 with
  | none => localInstant time.1
  | some offset =>
      if InRange (time.1.instant - offset) then .ok (time.1.instant - offset)
      else .error (.overflowError "date value out of range")

/-- `datetime.fromisoformat(text).astimezone(UTC)` -/
def instantOfText (text : String) : Except Failure Int := do
  let time ← fromisoformat text
  astimezoneUtc localInstant time

end Utc

section RoundTrip

@[simp] theorem length_padded (width number : Nat) : (padded width number).length = width := by
  induction width generalizing number with
  | zero => rfl
  | succ width induction => simp [padded, induction]

theorem isDigit_of_mem_padded
    {width number : Nat} {symbol : Char} (member : symbol ∈ padded width number) :
    symbol.isDigit = true := by
  induction width generalizing number with
  | zero => cases member
  | succ width induction =>
      rcases List.mem_append.mp member with earlier | last
      · exact induction earlier
      · rw [List.mem_singleton.mp last, Nat.isDigit_digitChar]
        exact decide_eq_true (Nat.mod_lt _ (by simp))

theorem ofDigitChars_padded {width number : Nat} (small : number < 10 ^ width) :
    Nat.ofDigitChars 10 (padded width number) 0 = number := by
  induction width generalizing number with
  | zero =>
      obtain rfl : number = 0 := by simpa using small
      rfl
  | succ width induction =>
      have shorter : number / 10 < 10 ^ width := by
        rw [Nat.pow_succ] at small
        omega
      rw [padded, Nat.ofDigitChars_append, induction shorter,
        Nat.ofDigitChars_cons_digitChar_of_lt_ten (Nat.mod_lt _ (by simp)),
        Nat.ofDigitChars_nil]
      omega

theorem readNumber_padded {width number : Nat} (small : number < 10 ^ width) (rest : List Char) :
    readNumber width (padded width number ++ rest) = some (number, rest) := by
  have first : (padded width number ++ rest).take width = padded width number := by
    rw [List.take_append_of_le_length (by simp), List.take_of_length_le (by simp)]
  have after : (padded width number ++ rest).drop width = rest := by
    rw [List.drop_append_of_le_length (by simp), List.drop_eq_nil_of_le (by simp),
      List.nil_append]
  have digits : (padded width number).all Char.isDigit = true :=
    List.all_eq_true.mpr (fun symbol member => isDigit_of_mem_padded member)
  simp [readNumber, first, after, digits, ofDigitChars_padded small]

theorem date_small (date : Date) :
    date.year < 10 ^ 4 ∧ date.month < 10 ^ 2 ∧ date.day < 10 ^ 2 := by
  have year := date.yearRange
  have month := date.monthRange
  have day := date.dayRange
  have short := daysInMonth_le date.year date.month
  simp only [minYear, maxYear] at year
  omega

theorem isDigit_of_padded_eq_cons
    {width number : Nat} {rest others : List Char} {symbol : Char}
    (shape : padded (width + 1) number ++ rest = symbol :: others) : symbol.isDigit = true := by
  cases digits : padded (width + 1) number with
  | nil => simpa using congrArg List.length digits
  | cons first tail =>
      rw [digits] at shape
      obtain rfl : first = symbol := (List.cons.inj shape).1
      exact isDigit_of_mem_padded (by rw [digits]; exact List.mem_cons_self)

theorem readDate_isoDate (date : Date) : readDate (isoDate date) = some date := by
  obtain ⟨year, month, day⟩ := date_small date
  have wholeDay : readNumber 2 (padded 2 date.day) = some (date.day, []) := by
    simpa using readNumber_padded day []
  simp only [readDate, isoDate, readNumber_padded year, Option.bind_eq_bind, Option.bind_some,
    List.head?_cons, decide_true, skipSeparator_due]
  split
  next rest shape =>
    have digit := isDigit_of_padded_eq_cons shape
    simp at digit
  next =>
    simp only [readNumber_padded month, Option.bind_some, skipSeparator_due, wholeDay,
      Date.ofNumbers?_self]

theorem readFraction_isoFraction {microsecond : Nat} (small : microsecond < 1000000) :
    readFraction (isoFraction microsecond) = some microsecond := by
  unfold isoFraction
  split
  next zero => simp [zero, readFraction]
  next =>
    have digits : (padded 6 microsecond).all Char.isDigit = true :=
      List.all_eq_true.mpr (fun symbol member => isDigit_of_mem_padded member)
    have present : (padded 6 microsecond).isEmpty = false := by
      rw [List.isEmpty_eq_false_iff_exists_mem]
      exact ⟨_, List.mem_append_right _ (List.mem_singleton_self _)⟩
    have whole : (padded 6 microsecond).take 6 = padded 6 microsecond :=
      List.take_of_length_le (by simp)
    simp [readFraction, fractionMicroseconds, digits, present, whole,
      ofDigitChars_padded (show microsecond < 10 ^ 6 from small)]

theorem readClock_isoTimeOfDay (time : DateTime) :
    readClock (isoTimeOfDay time) =
      some { hour := time.hour
             minute := time.minute
             second := time.second
             microsecond := time.microsecond } := by
  have hour : time.hour < 10 ^ 2 := time.hourRange.trans (by simp)
  have minute : time.minute < 10 ^ 2 := time.minuteRange.trans (by simp)
  have second : time.second < 10 ^ 2 := time.secondRange.trans (by simp)
  simp only [readClock, isoTimeOfDay, readNumber_padded hour, readNumber_padded minute,
    readNumber_padded second, Option.bind_eq_bind, Option.bind_some, List.isEmpty_cons,
    List.head?_cons, decide_true, skipSeparator_due,
    readFraction_isoFraction time.microsecondRange, Bool.false_eq_true, if_false]

theorem readOffset_utcOffset : readOffset utcOffset = some (some 0) := by
  decide +kernel

theorem isZoneMark_of_isDigit {symbol : Char} (digit : symbol.isDigit = true) :
    isZoneMark symbol = false := by
  cases mark : isZoneMark symbol with
  | false => rfl
  | true =>
      simp only [isZoneMark, Bool.or_eq_true, beq_iff_eq] at mark
      rcases mark with (rfl | rfl) | rfl <;> simp at digit

theorem isoTimeOfDay_unmarked (time : DateTime) :
    ∀ symbol ∈ isoTimeOfDay time, isZoneMark symbol = false := by
  intro symbol member
  simp only [isoTimeOfDay, List.mem_append, List.mem_cons] at member
  rcases member with hour | rfl | minute | rfl | second | fraction
  · exact isZoneMark_of_isDigit (isDigit_of_mem_padded hour)
  · rfl
  · exact isZoneMark_of_isDigit (isDigit_of_mem_padded minute)
  · rfl
  · exact isZoneMark_of_isDigit (isDigit_of_mem_padded second)
  · unfold isoFraction at fraction
    split at fraction
    · cases fraction
    · rcases List.mem_cons.mp fraction with rfl | digits
      · rfl
      · exact isZoneMark_of_isDigit (isDigit_of_mem_padded digits)

/-- The marks of a zone stand only in the offset. -/
theorem isoClock_plain (time : DateTime) :
    ∀ symbol ∈ isoClock time, symbol ≠ '+' ∧ symbol ≠ 'Z' := by
  have digits : ∀ {symbol : Char}, symbol.isDigit = true → symbol ≠ '+' ∧ symbol ≠ 'Z' := by
    intro symbol digit
    constructor <;> rintro rfl <;> simp at digit
  have unmarked : ∀ {symbol : Char}, isZoneMark symbol = false → symbol ≠ '+' ∧ symbol ≠ 'Z' := by
    intro symbol unmarked
    simp only [isZoneMark, Bool.or_eq_false_iff, beq_eq_false_iff_ne] at unmarked
    exact ⟨unmarked.1.1, unmarked.2⟩
  intro symbol member
  simp only [isoClock, isoDate, List.mem_append, List.mem_cons] at member
  rcases member with (year | rfl | month | rfl | day) | rfl | clock
  · exact digits (isDigit_of_mem_padded year)
  · decide
  · exact digits (isDigit_of_mem_padded month)
  · decide
  · exact digits (isDigit_of_mem_padded day)
  · decide
  · exact unmarked (isoTimeOfDay_unmarked time symbol clock)

theorem isoZ_eq (time : DateTime) : isoZ time = isoClock time ++ ['Z'] :=
  replaceText_last (fun member => (isoClock_plain time '+' member).1 rfl) _ _

theorem replaceText_isoZ (time : DateTime) :
    replaceText ['Z'] utcOffset (isoZ time) = isoformat time := by
  rw [isoZ_eq]
  exact replaceText_last (fun member => (isoClock_plain time 'Z' member).2 rfl) _ _

theorem length_isoDate (date : Date) : (isoDate date).length = 10 := by
  simp [isoDate]

theorem separatorLocation_isoformat (time : DateTime) :
    separatorLocation (isoformat time) = some 10 := by
  have long : (isoformat time).length ≠ 7 := by
    simp [isoformat, isoClock, length_isoDate]
    omega
  have fifth : (isoformat time)[4]? = some '-' := by
    simp [isoformat, isoClock, isoDate]
  have sixth : (isoformat time)[5]? ≠ some 'W' := by
    have digit : (isoformat time)[5]? = some (Nat.digitChar (time.date.month / 10 % 10)) := by
      simp [isoformat, isoClock, isoDate, padded]
    rw [digit]
    intro same
    have isDigit := @Nat.isDigit_digitChar (time.date.month / 10 % 10)
    rw [Option.some.inj same] at isDigit
    simp at isDigit
    omega
  rw [separatorLocation, if_neg long, if_pos fifth, if_neg sixth]

/-- What was written is read back. -/
theorem readIso_isoformat (time : DateTime) :
    readIso (isoformat time) = some (time, some 0) := by
  have long : ¬(isoformat time).length < 7 := by
    simp [isoformat, isoClock, length_isoDate]
    omega
  have shape : isoformat time = isoDate time.date ++ 'T' :: (isoTimeOfDay time ++ utcOffset) := by
    simp [isoformat, isoClock]
  have dateText : (isoformat time).take 10 = isoDate time.date := by
    rw [shape, List.take_left' (length_isoDate _)]
  have rest : (isoformat time).drop (10 + 1) = isoTimeOfDay time ++ utcOffset := by
    rw [shape, ← List.drop_drop, List.drop_left' (length_isoDate _)]
    rfl
  have unmarked : ∀ symbol ∈ isoTimeOfDay time, (!isZoneMark symbol) = true := by
    simpa using isoTimeOfDay_unmarked time
  have clockText : (isoTimeOfDay time ++ utcOffset).takeWhile
      (fun symbol => !isZoneMark symbol) = isoTimeOfDay time := by
    rw [List.takeWhile_append_of_pos unmarked]
    exact List.append_nil _
  have zoneText : (isoTimeOfDay time ++ utcOffset).dropWhile
      (fun symbol => !isZoneMark symbol) = utcOffset := by
    rw [List.dropWhile_append_of_pos unmarked]
    rfl
  have present : (isoTimeOfDay time ++ utcOffset).isEmpty = false := by
    simp [isoTimeOfDay]
  rw [readIso, if_neg long]
  simp only [separatorLocation_isoformat, dateText, rest, clockText, zoneText, present,
    readDate_isoDate, readClock_isoTimeOfDay, readOffset_utcOffset, Option.bind_eq_bind,
    Option.bind_some, Bool.false_eq_true, if_false, DateTime.ofNumbers?_self]

theorem fromisoformat_isoformat (time : DateTime) :
    fromisoformat (String.ofList (isoformat time)) = .ok (time, some 0) := by
  simp [fromisoformat, readIso_isoformat]

theorem instantOfText_isoformat
    (localInstant : DateTime → Except Failure Int) (time : DateTime) :
    instantOfText localInstant (String.ofList (isoformat time)) = .ok time.instant := by
  simp [instantOfText, fromisoformat_isoformat, astimezoneUtc, inRange_instant, bind,
    Except.bind]

end RoundTrip

end Python
