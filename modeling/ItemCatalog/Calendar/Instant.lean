import ItemCatalog.Calendar.Date

/-! # Instants: dates with a time of day

An instant is a date, a time to the microsecond and, if it is known, the offset of its clock in
minutes. Two instants with known offsets are the same if they name the same moment; otherwise all
their parts have to agree. -/

namespace ItemCatalog.Calendar

/-- A date with a time of day, to the millionth part of a second, and the offset of the clock in
minutes, if it is known. -/
structure Instant where
  date : Date
  hour : Nat
  minute : Nat
  second : Nat
  micro : Nat
  offset : Option Int
deriving DecidableEq, Repr, Inhabited

namespace Instant

/-- The offset of a clock, less than a day to either side. -/
def checkOffset (minutes : Int) : Except CalendarFault Int :=
  if -1440 < minutes && minutes < 1440 then .ok minutes else .error (.offset minutes)

/-- The instant of its numbers. -/
def make (year month day hour minute second micro : Nat) (offset : Option Int) :
    Except CalendarFault Instant := do
  let date ← Date.make year month day
  if 23 < hour then .error .hour
  else if 59 < minute then .error .minute
  else if 59 < second then .error .second
  else .ok ⟨date, hour, minute, second, micro, offset⟩

/-- The microseconds of the moment, counted from the first day of a clock without offset. -/
def moment (t : Instant) : Int :=
  let minutes : Int := t.date.ordinal * 1440 + t.hour * 60 + t.minute - t.offset.getD 0
  (minutes * 60 + t.second) * 1000000 + t.micro

/-- Whether two instants are the same. -/
def same (t u : Instant) : Bool :=
  match t.offset, u.offset with
  | some _, some _ => t.moment == u.moment
  | none, none => t.moment == u.moment
  | _, _ => false

/-- The sign, hours and minutes of an offset. -/
def offsetText (minutes : Int) : String :=
  let sign := if minutes < 0 then "-" else "+"
  s!"{sign}{Date.padded 2 (minutes.natAbs / 60)}:{Date.padded 2 (minutes.natAbs % 60)}"

/-- The instant as date and time with a separator between them; microseconds and offset are written
only if they are not zero and known. -/
def render (separator : Char) (t : Instant) : String :=
  let micro := if t.micro = 0 then "" else s!".{Date.padded 6 t.micro}"
  let offset := match t.offset with
    | some m => offsetText m
    | none => ""
  let time := s!"{Date.padded 2 t.hour}:{Date.padded 2 t.minute}:{Date.padded 2 t.second}"
  s!"{t.date.render}{separator}{time}{micro}{offset}"

end Instant

end ItemCatalog.Calendar
