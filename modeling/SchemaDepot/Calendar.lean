/-
# Dates and times

Dates of the Gregorian calendar from year 1 to 9999, and moments: a date, a time
of day to the microsecond and perhaps a distance from universal time of less
than a day. Two moments with a distance are the same when they are the same
instant; one with and one without are never the same.

Each has a plain text, `2020-01-31` or `2020-01-31 10:00:00+01:00`, and a literal
form that names its parts.

Key definitions: `Date`, `Moment`, `Date.make`, `Moment.make`, `Moment.same`.
-/
import SchemaDepot.Number.Decimal

namespace SchemaDepot

/-- A day of the calendar. -/
structure Date where
  year : Nat
  month : Nat
  day : Nat
deriving DecidableEq

/-- A date and a time of day. -/
structure Moment where
  date : Date
  hour : Nat
  minute : Nat
  second : Nat
  microsecond : Nat
  /-- Minutes ahead of universal time, if known. -/
  offset : Option Int
deriving DecidableEq

/-- Decimal digits with zeros in front up to a width. -/
def padded (width n : Nat) : String :=
  let ds := Decimal.digits n
  String.ofList (List.replicate (width - ds.length) '0' ++ ds)

namespace Date

/-- A year with a 29th of February. -/
def isLeap (year : Nat) : Bool := year % 4 == 0 && (year % 100 != 0 || year % 400 == 0)

/-- The number of days of a month. -/
def daysIn (year month : Nat) : Nat :=
  if month = 2 then (if isLeap year then 29 else 28)
  else if month = 4 ∨ month = 6 ∨ month = 9 ∨ month = 11 then 30
  else 31

/-- The date, if there is such a day. -/
def make (year month day : Nat) : Except CalendarFault Date :=
  if year < 1 ∨ 9999 < year then .error (.year year)
  else if month < 1 ∨ 12 < month then .error .month
  else if day < 1 ∨ daysIn year month < day then .error .day
  else .ok ⟨year, month, day⟩

/-- The days of a year before a month. -/
def daysBeforeMonth (year month : Nat) : Nat :=
  (List.range (month - 1)).foldl (fun n m => n + daysIn year (m + 1)) 0

/-- The days since the day before the first of January of year 1. -/
def ordinal (d : Date) : Nat :=
  let y := d.year - 1
  365 * y + y / 4 - y / 100 + y / 400 + daysBeforeMonth d.year d.month + d.day

/-- Year, month and day with hyphens between. -/
def text (d : Date) : String :=
  padded 4 d.year ++ "-" ++ padded 2 d.month ++ "-" ++ padded 2 d.day

/-- The parts of a date as arguments. -/
def parts (d : Date) : List Nat := [d.year, d.month, d.day]

/-- The form that names the parts. -/
def literal (d : Date) : String :=
  "datetime.date(" ++ ", ".intercalate (d.parts.map toString) ++ ")"

end Date

/-- A duration in minutes as its literal form: whole days, rounded down, and the
seconds left. -/
def durationLiteral (minutes : Int) : String :=
  let days := minutes.fdiv 1440
  let seconds := (minutes.fmod 1440) * 60
  let shown :=
    (if days = 0 then [] else ["days=" ++ toString days]) ++
    (if seconds = 0 then [] else ["seconds=" ++ toString seconds])
  "datetime.timedelta(" ++ (if shown.isEmpty then "0" else ", ".intercalate shown) ++ ")"

namespace Moment

/-- The moment, if there is such a day and such a time. -/
def make (year month day hour minute second microsecond : Nat) (offset : Option Int) :
    Except CalendarFault Moment := do
  match offset with
  | some o => if o.natAbs ≥ 1440 then throw (.offset (durationLiteral o)) else pure ()
  | none => pure ()
  let date ← Date.make year month day
  if hour > 23 then .error .hour
  else if minute > 59 then .error .minute
  else if second > 59 then .error .second
  else .ok ⟨date, hour, minute, second, microsecond, offset⟩

/-- Microseconds since the day before year 1, by the clock of the moment. -/
def clock (m : Moment) : Int :=
  (((m.date.ordinal * 24 + m.hour) * 60 + m.minute) * 60 + m.second) * 1000000 + m.microsecond

/-- Whether two moments are the same. -/
def same (x y : Moment) : Bool :=
  match x.offset, y.offset with
  | none, none => x.clock == y.clock
  | some o, some p => x.clock - o * 60000000 == y.clock - p * 60000000
  | _, _ => false

/-- The distance from universal time as hours and minutes with a sign. -/
def offsetText (o : Int) : String :=
  (if o < 0 then "-" else "+") ++ padded 2 (o.natAbs / 60) ++ ":" ++ padded 2 (o.natAbs % 60)

/-- Date and time with a space between; microseconds only if there are any. -/
def text (m : Moment) : String :=
  m.date.text ++ " " ++ padded 2 m.hour ++ ":" ++ padded 2 m.minute ++ ":" ++ padded 2 m.second
    ++ (if m.microsecond = 0 then "" else "." ++ padded 6 m.microsecond)
    ++ (match m.offset with | some o => offsetText o | none => "")

/-- The form that names the parts; seconds and microseconds only if needed. -/
def literal (m : Moment) : String :=
  let time :=
    if m.microsecond ≠ 0 then [m.hour, m.minute, m.second, m.microsecond]
    else if m.second ≠ 0 then [m.hour, m.minute, m.second]
    else [m.hour, m.minute]
  let zone := match m.offset with
    | none => []
    | some o =>
      if o = 0 then ["tzinfo=datetime.timezone.utc"]
      else ["tzinfo=datetime.timezone(" ++ durationLiteral o ++ ")"]
  "datetime.datetime(" ++ ", ".intercalate ((m.date.parts ++ time).map toString ++ zone) ++ ")"

end Moment

end SchemaDepot
