import Shex.Xsd.Decimal

/-!
# Dates and times

The written forms of dates, times and their parts. A reader takes what it needs from the start of a
text; `whole` demands that nothing is left. Months have their lengths in the Gregorian calendar,
which is extended to all years, the year zero and negative years included. A moment must have a
distance from the start of year 1 that is a decimal number of seconds.
-/

namespace Shex.Xsd.Calendar

/-- Reads something from the start of a text, if it is there. -/
abbrev Reader (α : Type) := List Char → Option (α × List Char)

/-- Whether a reader takes all of a text. -/
def whole {α : Type} (r : Reader α) (cs : List Char) : Option α :=
  match r cs with
  | some (a, []) => some a
  | _ => none

/-- Reads one given character. -/
def character (c : Char) : Reader Unit
  | d :: cs => if d = c then some ((), cs) else none
  | [] => none

/-- Reads a number of two digits between two bounds. -/
def twoDigits (lo hi : Nat) : Reader Nat := fun cs =>
  let (ds, rest) := takeDigits cs
  let n := digitsValue ds
  if ds.length = 2 && lo ≤ n && n ≤ hi then some (n, rest) else none

/-- Reads a year: an optional minus and at least four digits, the first of them no zero if there
are more than four. -/
def year : Reader Int := fun cs =>
  let (negative, rest) := match cs with
    | '-' :: rest => (true, rest)
    | rest => (false, rest)
  let (ds, rest) := takeDigits rest
  let n := digitsValue ds
  if ds.length < 4 || (ds.length > 4 && ds.head? = some '0') || !fitsInt64 n then none
  else some (if negative then -(n : Int) else n, rest)

/-- Whether a year has a 29th of February. -/
def isLeap (y : Int) : Bool := y % 400 = 0 || (y % 4 = 0 && y % 100 ≠ 0)

/-- The number of days of a month. Without a year, February has 28. -/
def daysInMonth (y : Option Int) (month : Nat) : Nat :=
  if month = 2 then if y.any isLeap then 29 else 28
  else if month = 4 || month = 6 || month = 9 || month = 11 then 30
  else 31

/-- What is known of a moment. The offset of the timezone is in minutes, the second is a decimal. -/
structure Moment where
  year : Option Int := none
  month : Option Nat := none
  day : Option Nat := none
  hour : Nat := 0
  minute : Nat := 0
  second : Decimal := ⟨0⟩
  offset : Int := 0

/-- The whole seconds from the start of year 1 to the start of a moment's minute. What is not known
of the date is taken to be the last day of December of the year 1972. -/
def Moment.wholeSeconds (m : Moment) : Int :=
  let y := m.year.getD 1972
  let past := y - 1
  let month := m.month.getD 12
  let day := m.day.getD (daysInMonth (some y) month)
  let monthDays := (List.range (month - 1)).foldl (fun n k => n + daysInMonth (some y) (k + 1)) 0
  let days : Int :=
    365 * past + (past / 400 - past / 100 + past / 4) + monthDays + ((day : Int) - 1)
  86400 * days + 3600 * m.hour + 60 * ((m.minute : Int) - m.offset)

/-- Whether the seconds from the start of year 1 to a moment are a decimal. -/
def Moment.onTimeline (m : Moment) : Bool :=
  let seconds := Decimal.ofInt m.wholeSeconds
  Decimal.fits seconds.scaled && Decimal.fits (seconds.scaled + m.second.scaled)

/-- Reads an optional timezone: `Z`, or a sign with hours and minutes up to fourteen hours. -/
def timezone : Reader Int
  | 'Z' :: cs => some (0, cs)
  | '+' :: cs => offset 1 cs
  | '-' :: cs => offset (-1) cs
  | cs => some (0, cs)
where
  /-- Hours and minutes, times a sign. -/
  offset (sign : Int) : Reader Int := fun cs => do
    let (h, cs) ← twoDigits 0 14 cs
    let (_, cs) ← character ':' cs
    let (m, cs) ← twoDigits 0 59 cs
    if h = 14 && m ≠ 0 then none else some (sign * (60 * h + m), cs)

/-- Reads seconds: two digits, and an optional point with digits. The value is below sixty. -/
def second : Reader Decimal := fun cs => do
  let (ds, rest) := takeDigits cs
  let (fraction, rest) ← match rest with
    | '.' :: rest =>
      let (fs, rest) := takeDigits rest
      if fs.isEmpty then none else some (fs, rest)
    | rest => some ([], rest)
  if ds.length ≠ 2 then none
  else
    let s ← Decimal.ofNumeral? ⟨false, ds, fraction⟩
    if s.scaled < (Decimal.ofInt 60).scaled then some (s, rest) else none

/-- Reads the time of a day. The end of the day may be written as hour 24. -/
def timeOfDay (m : Moment) : Reader Moment := fun cs => do
  let (hour, cs) ← twoDigits 0 24 cs
  let (_, cs) ← character ':' cs
  let (minute, cs) ← twoDigits 0 59 cs
  let (_, cs) ← character ':' cs
  let (second, cs) ← second cs
  if hour = 24 && (minute ≠ 0 || second.scaled ≠ 0) then none
  else some ({ m with hour, minute, second }, cs)

/-- Reads the timezone that ends every form, and checks that the moment is on the timeline. -/
def zoned (m : Moment) : Reader Moment := fun cs => do
  let (offset, cs) ← timezone cs
  let m := { m with offset }
  if m.onTimeline then some (m, cs) else none

/-- Reads a year, a month and a day with hyphens between them. -/
def yearMonthDay : Reader Moment := fun cs => do
  let (y, cs) ← year cs
  let (_, cs) ← character '-' cs
  let (month, cs) ← twoDigits 1 12 cs
  let (_, cs) ← character '-' cs
  let (day, cs) ← twoDigits 1 31 cs
  if day ≤ daysInMonth (some y) month then
    some ({ year := some y, month := some month, day := some day }, cs)
  else none

/-- A date with an optional timezone. -/
def date : Reader Moment := fun cs => do
  let (m, cs) ← yearMonthDay cs
  zoned m cs

/-- A date, the letter `T` and a time of the day, with an optional timezone. -/
def dateTime : Reader Moment := fun cs => do
  let (m, cs) ← yearMonthDay cs
  let (_, cs) ← character 'T' cs
  let (m, cs) ← timeOfDay m cs
  zoned m cs

/-- A time of the day with an optional timezone. -/
def time : Reader Moment := fun cs => do
  let (m, cs) ← timeOfDay {} cs
  zoned m cs

/-- A year with an optional timezone. -/
def gYear : Reader Moment := fun cs => do
  let (y, cs) ← year cs
  zoned { year := some y } cs

/-- A year and a month with an optional timezone. -/
def gYearMonth : Reader Moment := fun cs => do
  let (y, cs) ← year cs
  let (_, cs) ← character '-' cs
  let (month, cs) ← twoDigits 1 12 cs
  zoned { year := some y, month := some month } cs

/-- Two hyphens and a month, with an optional timezone. -/
def gMonth : Reader Moment := fun cs => do
  let (_, cs) ← character '-' cs
  let (_, cs) ← character '-' cs
  let (month, cs) ← twoDigits 1 12 cs
  zoned { month := some month } cs

/-- Two hyphens, a month and a day, with an optional timezone. -/
def gMonthDay : Reader Moment := fun cs => do
  let (_, cs) ← character '-' cs
  let (_, cs) ← character '-' cs
  let (month, cs) ← twoDigits 1 12 cs
  let (_, cs) ← character '-' cs
  let (day, cs) ← twoDigits 1 31 cs
  if day ≤ daysInMonth none month then zoned { month := some month, day := some day } cs
  else none

/-- Three hyphens and a day, with an optional timezone. -/
def gDay : Reader Moment := fun cs => do
  let (_, cs) ← character '-' cs
  let (_, cs) ← character '-' cs
  let (_, cs) ← character '-' cs
  let (day, cs) ← twoDigits 1 31 cs
  zoned { day := some day } cs

end Shex.Xsd.Calendar
