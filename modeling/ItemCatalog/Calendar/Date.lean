import ItemCatalog.Number.Render

/-! # Dates: days of the Gregorian calendar

A date is a year of four digits, a month and a day of that month. `make` checks the three in that
order, and `ordinal` counts the days from the first one. -/

namespace ItemCatalog.Calendar

open ItemCatalog.Number

/-- A day of the calendar, in a year from 1 to 9999. -/
structure Date where
  year : Nat
  month : Nat
  day : Nat
deriving DecidableEq, Repr, Inhabited

/-- Why numbers form no date or time. The offset of a clock, in minutes, has to be shorter than a
day. -/
inductive CalendarFault where
  | year (year : Nat)
  | month
  | day
  | hour
  | minute
  | second
  | offset (minutes : Int)
deriving DecidableEq, Repr

/-- The days and seconds of a span of minutes, the seconds counted forward. -/
def spanText (minutes : Int) : String :=
  let days := Int.fdiv minutes 1440
  let seconds := Int.fmod minutes 1440 * 60
  let parts :=
    (if days = 0 then [] else [s!"days={renderInt days}"]) ++
    (if seconds = 0 then [] else [s!"seconds={renderInt seconds}"])
  "datetime.timedelta(" ++ (if parts.isEmpty then "0" else ", ".intercalate parts) ++ ")"

/-- The wording of a fault. -/
def CalendarFault.message : CalendarFault → String
  | .year y => s!"year {y} is out of range"
  | .month => "month must be in 1..12"
  | .day => "day is out of range for month"
  | .hour => "hour must be in 0..23"
  | .minute => "minute must be in 0..59"
  | .second => "second must be in 0..59"
  | .offset minutes =>
    "offset must be a timedelta strictly between -timedelta(hours=24) and timedelta(hours=24), " ++
      s!"not {spanText minutes}."

/-- Whether a year has 366 days. -/
def isLeap (year : Nat) : Bool :=
  year % 4 == 0 && (year % 100 != 0 || year % 400 == 0)

/-- The count of days of a month. -/
def daysInMonth (year month : Nat) : Nat :=
  match month with
  | 2 => if isLeap year then 29 else 28
  | 4 | 6 | 9 | 11 => 30
  | _ => 31

namespace Date

/-- The date of three numbers. -/
def make (year month day : Nat) : Except CalendarFault Date :=
  if year < 1 || 9999 < year then .error (.year year)
  else if month < 1 || 12 < month then .error .month
  else if day < 1 || daysInMonth year month < day then .error .day
  else .ok ⟨year, month, day⟩

/-- The count of days from the first day of the calendar up to this one. -/
def ordinal (d : Date) : Nat :=
  let y := d.year - 1
  let months := (List.range (d.month - 1)).map fun m => daysInMonth d.year (m + 1)
  let before := months.foldl (· + ·) 0
  365 * y + y / 4 - y / 100 + y / 400 + before + d.day

/-- The characters of a number with at least `width` digits. -/
def padded (width n : Nat) : String :=
  String.ofList (padZeros width (digitsOf n))

/-- The date as year, month and day. -/
def render (d : Date) : String :=
  s!"{padded 4 d.year}-{padded 2 d.month}-{padded 2 d.day}"

end Date

end ItemCatalog.Calendar
