/-
Dates and times as they are written.

A date is four, two and two digits with hyphens between them. A time follows
after the letter T or after blanks: hour, minute and second with colons between
them, then a fraction, then the distance from universal time.
-/
import TableSink.Number.Read
import TableSink.Value.Basic

namespace TableSink

open Number

/-- The numbers of a written date or time. -/
structure Timestamp where
  year : Nat
  month : Nat
  day : Nat
  /-- Hour, minute and second. -/
  clock : Option (Nat × Nat × Nat) := none
  /-- The digits of the fraction of a second. -/
  fraction : List Nat := []
  /-- The distance from universal time. -/
  zone : Option Zone := none

namespace Timestamp

/-- Reads at least `least` and at most `most` digits. -/
def readDigits (least most : Nat) (s : List Char) : Option (Nat × List Char) :=
  let ds := (s.take most).takeWhile Char.isDigit
  if ds.length < least then none
  else some (ofDigits (ds.filterMap latinDigit?), s.drop ds.length)

/-- Reads one given character. -/
def readChar (c : Char) : List Char → Option (List Char)
  | [] => none
  | c' :: s => if c' = c then some s else none

/-- Drops spaces and tabs. -/
def dropSpaces (s : List Char) : List Char :=
  s.dropWhile fun c => c = ' ' || c = '\t'

/-- Reads what stands between a date and a time. -/
def readGap : List Char → Option (List Char)
  | [] => none
  | c :: s =>
    if c = 'T' ∨ c = 't' then some s
    else if c = ' ' ∨ c = '\t' then some (dropSpaces s)
    else none

/-- Reads the distance from universal time, to the end of the text: the letter
Z, or a sign with hours and perhaps minutes. -/
def readZone (s : List Char) : Option Zone :=
  match s with
  | ['Z'] => some ⟨0, some "Z"⟩
  | sign :: rest => do
    let sign : Int ← if sign = '-' then some (-1) else if sign = '+' then some 1 else none
    let (hours, rest) ← readDigits 1 2 rest
    let name := String.ofList s
    match rest with
    | [] => some ⟨sign * (hours * 3600), name⟩
    | rest =>
      let rest ← readChar ':' rest
      let (minutes, rest) ← readDigits 2 2 rest
      if rest.isEmpty then some ⟨sign * ((hours * 60 + minutes : Nat) * 60), name⟩ else none
  | [] => none

/-- Reads what follows a time of day: nothing, or a zone after blanks. -/
def readZone? (s : List Char) : Option (Option Zone) :=
  if s.isEmpty then some none else (readZone (dropSpaces s)).map some

/-- Reads a time of day after a date. -/
def readClock (date : Timestamp) (s : List Char) : Option Timestamp := do
  let s ← readGap s
  let (hour, s) ← readDigits 1 2 s
  let s ← readChar ':' s
  let (minute, s) ← readDigits 2 2 s
  let s ← readChar ':' s
  let (second, s) ← readDigits 2 2 s
  let (fraction, s) := match s with
    | '.' :: s => spanDigits s
    | s => ([], s)
  let zone ← readZone? s
  some { date with clock := some (hour, minute, second), fraction, zone }

/-- Reads a written date, with or without a time. Months and days of one digit
are taken where `short` allows them. -/
def readWith (short : Bool) (s : List Char) : Option Timestamp := do
  let least := if short then 1 else 2
  let (year, s) ← readDigits 4 4 s
  let s ← readChar '-' s
  let (month, s) ← readDigits least 2 s
  let s ← readChar '-' s
  let (day, s) ← readDigits least 2 s
  if s.isEmpty then some { year, month, day } else none

/-- Reads a written time. -/
def readTime (s : List Char) : Option Timestamp := do
  let (year, s) ← readDigits 4 4 s
  let s ← readChar '-' s
  let (month, s) ← readDigits 1 2 s
  let s ← readChar '-' s
  let (day, s) ← readDigits 1 2 s
  readClock { year, month, day } s

/-- The text without the line break at its end, if there is one. -/
def dropBreak (s : List Char) : List Char :=
  if s.getLast? = some '\n' then s.dropLast else s

/-- Reads a text that is a date or a time by its looks: a date alone has two
digits for the month and the day. -/
def read? (s : List Char) : Option Timestamp :=
  (readWith false s).or (readTime s)

/-- Reads a text that is meant as a date or a time, perhaps with a line break
after it. -/
def readTagged? (s : List Char) : Option Timestamp :=
  (readWith true (dropBreak s)).or (readTime (dropBreak s))

/-- The microseconds of a fraction, rounded at its seventh digit. -/
def microseconds (fraction : List Nat) : Nat :=
  let first := (fraction ++ List.replicate 6 0).take 6
  ofDigits first + (if 4 < (fraction.drop 6).headD 0 then 1 else 0)

/-- The day or the time that a timestamp stands for, if there is one. A
fraction that rounds up to a whole second leads to the next one. -/
def value (t : Timestamp) : Except DateTime.Fault Value :=
  match t.clock with
  | none => ((Date.ofNumbers t.year t.month t.day).map .date).mapError .date
  | some (hour, minute, second) => do
    let micro := microseconds t.fraction
    let time ← DateTime.ofNumbers t.year t.month t.day hour minute second (micro % 1000000) t.zone
    if micro < 1000000 then return .dateTime time
    else
      match time.next? with
      | some time => return .dateTime time
      | none => throw .range

end Timestamp

end TableSink
