import FirewallPolicy.Text.Numeral

/-!
# Dates and times of day

The proleptic Gregorian calendar of the years 1 to 9999, and times of day to the microsecond, with
or without an offset from universal time.
-/

namespace FirewallPolicy.Calendar

open FirewallPolicy.Text (paddedNat)

/-- Why numbers do not name a date or a time. -/
inductive CalendarError where
  | year (n : Int)
  | month
  | day
  | hour
  | minute
  | second
  /-- An offset of a day or more, in seconds. -/
  | offset (seconds : Int)
  /-- A moment whose year does not fit 32 bits. -/
  | yearTooLarge
  /-- A moment that does not fit 64 bits. -/
  | momentTooLarge
  deriving DecidableEq, Repr

/-- A day of the calendar. -/
structure Date where
  year : Nat
  month : Nat
  day : Nat
  deriving DecidableEq, Repr

/-- A date with a time of day, and its offset from universal time in seconds where it has one. -/
structure DateTime where
  date : Date
  hour : Nat
  minute : Nat
  second : Nat
  microsecond : Nat
  offset : Option Int
  deriving DecidableEq, Repr

/-- Whether a year has a 29th of February. -/
def isLeap (year : Nat) : Bool := year % 4 == 0 && (year % 100 != 0 || year % 400 == 0)

/-- How many days a month has. -/
def daysInMonth (year month : Nat) : Nat :=
  if month = 2 then if isLeap year then 29 else 28
  else if month = 4 ∨ month = 6 ∨ month = 9 ∨ month = 11 then 30
  else 31

/-- The date with the given numbers; of several bad ones the year is blamed first. -/
def Date.make (year month day : Nat) : Except CalendarError Date :=
  if year < 1 ∨ 9999 < year then .error (.year year)
  else if month < 1 ∨ 12 < month then .error .month
  else if day < 1 ∨ daysInMonth year month < day then .error .day
  else .ok ⟨year, month, day⟩

/-- The date and time with the given numbers; bad ones are blamed from the largest unit down. -/
def DateTime.make (year month day hour minute second microsecond : Nat) (offset : Option Int) :
    Except CalendarError DateTime := do
  let date ← Date.make year month day
  if 23 < hour then throw .hour
  if 59 < minute then throw .minute
  if 59 < second then throw .second
  return ⟨date, hour, minute, second, microsecond, offset⟩

/-- The number of days from 1970-01-01 to a date. -/
def Date.toDays (d : Date) : Int :=
  let y : Int := if d.month ≤ 2 then d.year - 1 else d.year
  let era := y.fdiv 400
  let yearOfEra := y - era * 400
  let monthFromMarch : Int := if 2 < d.month then d.month - 3 else d.month + 9
  let dayOfYear := (153 * monthFromMarch + 2).fdiv 5 + d.day - 1
  let dayOfEra := yearOfEra * 365 + yearOfEra.fdiv 4 - yearOfEra.fdiv 100 + dayOfYear
  era * 146097 + dayOfEra - 719468

/-- Year, month and day of a number of days from 1970-01-01. -/
def civilOfDays (days : Int) : Int × Nat × Nat :=
  let z := days + 719468
  let era := z.fdiv 146097
  let dayOfEra := z - era * 146097
  let yearOfEra :=
    (dayOfEra - dayOfEra.fdiv 1460 + dayOfEra.fdiv 36524 - dayOfEra.fdiv 146096).fdiv 365
  let dayOfYear := dayOfEra - (365 * yearOfEra + yearOfEra.fdiv 4 - yearOfEra.fdiv 100)
  let monthFromMarch := (5 * dayOfYear + 2).fdiv 153
  let day := dayOfYear - (153 * monthFromMarch + 2).fdiv 5 + 1
  let month := if monthFromMarch < 10 then monthFromMarch + 3 else monthFromMarch - 9
  let year := yearOfEra + era * 400 + (if month ≤ 2 then 1 else 0)
  (year, month.toNat, day.toNat)

/-- The moment a number of seconds after 1970-01-01, in universal time.  A moment outside 64 bits,
then a year outside 32 bits, then a year outside the calendar is refused; the year named in the last
case is the one that 32 bits show. -/
def DateTime.ofEpoch (seconds : Int) (microsecond : Nat) : Except CalendarError DateTime :=
  if seconds < -0x8000000000000000 ∨ 0x8000000000000000 ≤ seconds then .error .momentTooLarge
  else
    let days := seconds.fdiv 86400
    let rest := (seconds - days * 86400).toNat
    let (year, month, day) := civilOfDays days
    if year - 1900 < -0x80000000 ∨ 0x80000000 ≤ year - 1900 then .error .yearTooLarge
    else if year < 1 ∨ 9999 < year then .error (.year (Int.bmod year 0x100000000))
    else
      .ok ⟨⟨year.toNat, month, day⟩, rest / 3600, rest / 60 % 60, rest % 60, microsecond, some 0⟩

/-- The number of microseconds from 1970-01-01 to a time, taken in universal time where it has an
offset and as it stands where it has none. -/
def DateTime.toMicroseconds (t : DateTime) : Int :=
  let seconds : Int :=
    t.date.toDays * 86400 + t.hour * 3600 + t.minute * 60 + t.second - t.offset.getD 0
  seconds * 1000000 + t.microsecond

/-- Whether two times are the same moment; one with an offset is never one without. -/
def DateTime.sameMoment (s t : DateTime) : Bool :=
  s.offset.isSome == t.offset.isSome && s.toMicroseconds == t.toMicroseconds

/-- A date as year, month and day. -/
def Date.text (d : Date) : String :=
  s!"{paddedNat 4 d.year}-{paddedNat 2 d.month}-{paddedNat 2 d.day}"

/-- An offset as a signed number of hours and minutes. -/
def offsetText (offset : Int) : String :=
  let n := offset.natAbs
  (if offset < 0 then "-" else "+") ++ paddedNat 2 (n / 3600) ++ ":" ++ paddedNat 2 (n / 60 % 60)

/-- A date and time with microseconds where they are not zero and the offset where there is one. -/
def DateTime.text (t : DateTime) : String :=
  t.date.text ++ "T" ++ paddedNat 2 t.hour ++ ":" ++ paddedNat 2 t.minute ++ ":" ++
    paddedNat 2 t.second ++
    (if t.microsecond = 0 then "" else "." ++ paddedNat 6 t.microsecond) ++
    (t.offset.map offsetText).getD ""

/-- The names of the days of the week; 1970-01-01 was a Thursday. -/
def weekdayNames : List String := ["Thu", "Fri", "Sat", "Sun", "Mon", "Tue", "Wed"]

/-- The names of the months. -/
def monthNames : List String :=
  ["Jan", "Feb", "Mar", "Apr", "May", "Jun", "Jul", "Aug", "Sep", "Oct", "Nov", "Dec"]

/-- A date and time in words: the day of the week, the month, the day, the time and the year. -/
def DateTime.inWords (t : DateTime) : String :=
  let weekday := weekdayNames.getD (t.date.toDays.fmod 7).toNat ""
  let month := monthNames.getD (t.date.month - 1) ""
  let day := (if t.date.day < 10 then " " else "") ++ toString t.date.day
  let time := paddedNat 2 t.hour ++ ":" ++ paddedNat 2 t.minute ++ ":" ++ paddedNat 2 t.second
  s!"{weekday} {month} {day} {time} {t.date.year}"

/-- A span of seconds as whole days and the seconds left, the latter never negative. -/
def spanText (seconds : Int) : String :=
  let days := seconds.fdiv 86400
  let rest := seconds - days * 86400
  let parts := (if days = 0 then [] else [s!"days={days}"]) ++
    (if rest = 0 then [] else [s!"seconds={rest}"])
  "datetime.timedelta(" ++ (if parts.isEmpty then "0" else ", ".intercalate parts) ++ ")"

/-- The wording of a calendar error. -/
def CalendarError.message : CalendarError → String
  | .year n => s!"year {n} is out of range"
  | .month => "month must be in 1..12"
  | .day => "day is out of range for month"
  | .hour => "hour must be in 0..23"
  | .minute => "minute must be in 0..59"
  | .second => "second must be in 0..59"
  | .offset seconds =>
    "offset must be a timedelta strictly between -timedelta(hours=24) and timedelta(hours=24), " ++
      s!"not {spanText seconds}."
  | .yearTooLarge => "[Errno 75] Value too large for defined data type"
  | .momentTooLarge => "timestamp out of range for platform time_t"

/-- A date as it is shown inside a message. -/
def Date.shown (d : Date) : String := s!"datetime.date({d.year}, {d.month}, {d.day})"

/-- A date and time as it is shown inside a message: seconds and microseconds only where the later
of them is not zero. -/
def DateTime.shown (t : DateTime) : String :=
  let numbers := [t.date.year, t.date.month, t.date.day, t.hour, t.minute] ++
    (if t.microsecond ≠ 0 then [t.second, t.microsecond]
     else if t.second ≠ 0 then [t.second] else [])
  let zone := match t.offset with
    | none => []
    | some 0 => ["tzinfo=datetime.timezone.utc"]
    | some s => [s!"tzinfo=datetime.timezone({spanText s})"]
  "datetime.datetime(" ++ ", ".intercalate (numbers.map toString ++ zone) ++ ")"

end FirewallPolicy.Calendar
