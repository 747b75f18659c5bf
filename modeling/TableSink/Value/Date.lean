/-
Calendar dates and times of day.

A time may say how far it is ahead of universal time. Two times that both say
so are the same when they name the same moment; a time that says so is never
the same as one that does not.
-/
import TableSink.Number.Style
import TableSink.Text.Literal

namespace TableSink

open Number Text

/-- A number in at least `width` digits, with zeros on the left. -/
def paddedNat (width n : Nat) : String :=
  padLeft width (toString n)

/-! ## Dates -/

/-- A day of the calendar. -/
structure Date where
  year : Nat
  month : Nat
  day : Nat
  deriving DecidableEq

namespace Date

/-- Has the year a 29th of February? -/
def isLeapYear (year : Nat) : Bool :=
  year % 4 == 0 && (year % 100 != 0 || year % 400 == 0)

/-- The number of days of a month. -/
def daysInMonth (year month : Nat) : Nat :=
  if month = 2 then if isLeapYear year then 29 else 28
  else if month ∈ [4, 6, 9, 11] then 30
  else 31

/-- Why three numbers are not a day. -/
inductive Fault where
  | year (n : Nat)
  | month
  | day
  deriving DecidableEq

/-- The wording of a fault. -/
def Fault.message : Fault → String
  | .year n => "year " ++ toString n ++ " is out of range"
  | .month => "month must be in 1..12"
  | .day => "day is out of range for month"

/-- The day of a year, a month and a day of the month. -/
def ofNumbers (year month day : Nat) : Except Fault Date :=
  if year = 0 ∨ 9999 < year then .error (.year year)
  else if month = 0 ∨ 12 < month then .error .month
  else if day = 0 ∨ daysInMonth year month < day then .error .day
  else .ok ⟨year, month, day⟩

/-- The text of a day. -/
def text (d : Date) : String :=
  paddedNat 4 d.year ++ "-" ++ paddedNat 2 d.month ++ "-" ++ paddedNat 2 d.day

/-- The three numbers of a day. -/
def numbers (d : Date) : List Nat :=
  [d.year, d.month, d.day]

/-- The literal of a day. -/
def literal (d : Date) : Text :=
  "datetime.date(" ++ commaSeparated (d.numbers.map fun (n : Nat) => ofInt n) ++ ")"

end Date

/-! ## Zones -/

/-- The seconds of a day. -/
def secondsPerDay : Nat := 86400

/-- The literal of a span of time: whole days, and seconds that are not
negative. -/
def spanLiteral (seconds : Int) : Text :=
  let days := seconds / secondsPerDay
  let rest := seconds % secondsPerDay
  let parts := (if days = 0 then [] else ["days=" ++ ofInt days])
    ++ (if rest = 0 then [] else ["seconds=" ++ ofInt rest])
  "datetime.timedelta(" ++ (if parts.isEmpty then ofInt 0 else commaSeparated parts) ++ ")"

/-- How far a time is ahead of universal time. -/
structure Zone where
  /-- Seconds ahead of universal time; negative where it is behind. -/
  offset : Int
  /-- How the distance was written, where it was written. -/
  name : Option String := none
  deriving DecidableEq

namespace Zone

/-- The text of a zone: hours and minutes, and seconds where there are any. -/
def text (z : Zone) : String :=
  let n := z.offset.natAbs
  (if z.offset < 0 then "-" else "+") ++ paddedNat 2 (n / 3600) ++ ":" ++ paddedNat 2 (n / 60 % 60)
    ++ (if n % 60 = 0 then "" else ":" ++ paddedNat 2 (n % 60))

/-- The literal of a zone. -/
def literal (z : Zone) : Text :=
  match z.name with
  | some name => "datetime.timezone(" ++ spanLiteral z.offset ++ ", " ++ quote name ++ ")"
  | none =>
    if z.offset = 0 then "datetime.timezone.utc"
    else "datetime.timezone(" ++ spanLiteral z.offset ++ ")"

end Zone

/-! ## Times of a day -/

/-- A time of a day, down to the microsecond. -/
structure DateTime where
  date : Date
  hour : Nat
  minute : Nat
  second : Nat
  microsecond : Nat
  zone : Option Zone := none
  deriving DecidableEq

namespace DateTime

/-- Why numbers are not a time of day. -/
inductive Fault where
  | date (fault : Date.Fault)
  | hour
  | minute
  | second
  /-- The zone is a day or more away. -/
  | zone (offset : Int)
  /-- Rounding leads past the last day. -/
  | range
  deriving DecidableEq

/-- The wording of a fault. -/
def Fault.message : Fault → Text
  | .date fault => fault.message
  | .hour => "hour must be in 0..23"
  | .minute => "minute must be in 0..59"
  | .second => "second must be in 0..59"
  | .zone offset =>
    "offset must be a timedelta strictly between -timedelta(hours=24) and timedelta(hours=24), not "
      ++ spanLiteral offset ++ "."
  | .range => "date value out of range"

/-- The time of the given numbers. The zone is looked at first. -/
def ofNumbers (year month day hour minute second microsecond : Nat) (zone : Option Zone) :
    Except Fault DateTime :=
  match zone.filter fun z => secondsPerDay ≤ z.offset.natAbs with
  | some z => .error (.zone z.offset)
  | none =>
    match Date.ofNumbers year month day with
    | .error fault => .error (.date fault)
    | .ok date =>
      if 23 < hour then .error .hour
      else if 59 < minute then .error .minute
      else if 59 < second then .error .second
      else .ok ⟨date, hour, minute, second, microsecond, zone⟩

/-- The text of a time; a fraction of a second and a zone are written where
there are any. -/
def text (t : DateTime) : String :=
  t.date.text ++ " " ++ paddedNat 2 t.hour ++ ":" ++ paddedNat 2 t.minute ++ ":"
    ++ paddedNat 2 t.second
    ++ (if t.microsecond = 0 then "" else "." ++ paddedNat 6 t.microsecond)
    ++ (t.zone.map Zone.text).getD ""

/-- The literal of a time. Seconds are left out where they and the fraction are
zero, the fraction where it is zero. -/
def literal (t : DateTime) : Text :=
  let seconds := if t.microsecond ≠ 0 then [t.second, t.microsecond]
    else if t.second ≠ 0 then [t.second] else []
  "datetime.datetime("
    ++ commaSeparated
      ((t.date.numbers ++ [t.hour, t.minute] ++ seconds).map (fun (n : Nat) => ofInt n)
      ++ (t.zone.map fun z => ofString "tzinfo=" ++ z.literal).toList) ++ ")"

/-- A day as a number of days. -/
def dayNumber (d : Date) : Int :=
  let y : Int := if d.month ≤ 2 then (d.year : Int) - 1 else d.year
  let m : Int := if d.month ≤ 2 then (d.month : Int) + 9 else (d.month : Int) - 3
  365 * y + y / 4 - y / 100 + y / 400 + (153 * m + 2) / 5 + d.day

/-- The day of a number of days. -/
def dateOfDayNumber (n : Int) : Date :=
  let z := n - 1
  let era := z / 146097
  let inEra := z % 146097
  let yearOfEra := (inEra - inEra / 1460 + inEra / 36524 - inEra / 146096) / 365
  let dayOfYear := inEra - (365 * yearOfEra + yearOfEra / 4 - yearOfEra / 100)
  let m := (5 * dayOfYear + 2) / 153
  let day := dayOfYear - (153 * m + 2) / 5 + 1
  let month := if m < 10 then m + 3 else m - 9
  let year := yearOfEra + era * 400 + (if month ≤ 2 then 1 else 0)
  ⟨year.toNat, month.toNat, day.toNat⟩

/-- The seconds of the day that have passed. -/
def secondOfDay (t : DateTime) : Nat :=
  (t.hour * 60 + t.minute) * 60 + t.second

/-- The time one second later, if there is one. -/
def next? (t : DateTime) : Option DateTime :=
  let passed := t.secondOfDay + 1
  let date := dateOfDayNumber (dayNumber t.date + (passed / secondsPerDay : Nat))
  if 9999 < date.year then none
  else
    let rest := passed % secondsPerDay
    some { t with date, hour := rest / 3600, minute := rest / 60 % 60, second := rest % 60 }

/-- The moment of a time, in seconds, if it is so far ahead of universal
time. -/
def moment (t : DateTime) (offset : Int) : Int :=
  dayNumber t.date * secondsPerDay + t.secondOfDay - offset

/-- Are two times the same? -/
def same (t u : DateTime) : Bool :=
  match t.zone, u.zone with
  | none, none => t == u
  | some z, some w => t.moment z.offset == u.moment w.offset && t.microsecond == u.microsecond
  | _, _ => false

end DateTime

end TableSink
