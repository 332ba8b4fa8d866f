/-!
# Calendar

Dates from the year 1 to the year 9999, times of a day, and their written forms.  A `Moment` is a
date, perhaps with a time of that day, and then perhaps with how far clocks are ahead of universal
time.
-/

namespace ProjectCheck

/-- A number with zeros in front, up to a width. -/
def padded (width n : Nat) : String :=
  let digits := Nat.toDigits 10 n
  String.ofList (List.replicate (width - digits.length) '0' ++ digits)

/-! ## Dates -/

/-- A day of the calendar. -/
structure Date where
  year : Nat
  month : Nat
  day : Nat
deriving Repr, DecidableEq, Inhabited

namespace Date

/-- Whether a year has a leap day. -/
def isLeapYear (year : Nat) : Bool :=
  year % 4 == 0 && (year % 100 != 0 || year % 400 == 0)

/-- How many days a month has. -/
def daysInMonth (year month : Nat) : Nat :=
  if month == 2 then if isLeapYear year then 29 else 28
  else if month == 4 || month == 6 || month == 9 || month == 11 then 30
  else 31

/-- Whether there is such a day. -/
def isValid (d : Date) : Bool :=
  1 ≤ d.year && d.year ≤ 9999 && 1 ≤ d.month && d.month ≤ 12 &&
    1 ≤ d.day && d.day ≤ daysInMonth d.year d.month

/-- How many days lie between the end of the year zero and a day, that day included. -/
def number (d : Date) : Nat :=
  let earlier := d.year - 1
  let months := (List.range' 1 (d.month - 1)).map (daysInMonth d.year)
  365 * earlier + earlier / 4 - earlier / 100 + earlier / 400 + months.foldl (· + ·) 0 + d.day

/-- A date in writing. -/
def text (d : Date) : String :=
  padded 4 d.year ++ "-" ++ padded 2 d.month ++ "-" ++ padded 2 d.day

end Date

/-! ## Times -/

/-- A time of a day. -/
structure Time where
  hour : Nat := 0
  minute : Nat := 0
  second : Nat := 0
  microsecond : Nat := 0
deriving Repr, DecidableEq, Inhabited

namespace Time

/-- Whether a day has such a time. -/
def isValid (t : Time) : Bool :=
  t.hour < 24 && t.minute < 60 && t.second < 60 && t.microsecond < 1000000

/-- How many microseconds of the day have passed. -/
def microseconds (t : Time) : Nat :=
  ((t.hour * 60 + t.minute) * 60 + t.second) * 1000000 + t.microsecond

/-- A time in writing; microseconds are left out when there are none. -/
def text (t : Time) : String :=
  padded 2 t.hour ++ ":" ++ padded 2 t.minute ++ ":" ++ padded 2 t.second ++
    (if t.microsecond == 0 then "" else "." ++ padded 6 t.microsecond)

end Time

/-! ## Moments -/

/-- A time of a day, and by how many minutes clocks are ahead of universal time, if that is known. -/
structure Clock where
  time : Time
  ahead : Option Int := none
deriving Repr, DecidableEq, Inhabited

namespace Clock

/-- How many minutes a day has. -/
def minutesOfDay : Nat :=
  24 * 60

/-- Whether a day has such a time, and clocks are less than a day ahead or behind. -/
def isValid (c : Clock) : Bool :=
  c.time.isValid && (c.ahead.getD 0).natAbs < minutesOfDay

/-- How far clocks are ahead, in writing. -/
def aheadText (minutes : Int) : String :=
  (if minutes < 0 then "-" else "+") ++ padded 2 (minutes.natAbs / 60) ++ ":" ++
    padded 2 (minutes.natAbs % 60)

/-- A clock in writing. -/
def text (c : Clock) : String :=
  c.time.text ++ (c.ahead.map aheadText).getD ""

/-- A span of minutes, shown by its days and seconds. -/
def shownSpan (minutes : Int) : String :=
  let days := minutes / minutesOfDay
  let seconds := minutes % minutesOfDay * 60
  let parts :=
    (if days == 0 then [] else ["days=" ++ toString days]) ++
      (if seconds == 0 then [] else ["seconds=" ++ toString seconds])
  "datetime.timedelta(" ++ ", ".intercalate parts ++ ")"

/-- How far clocks are ahead, shown. -/
def shownAhead (minutes : Int) : String :=
  if minutes == 0 then "datetime.timezone.utc"
  else "datetime.timezone(" ++ shownSpan minutes ++ ")"

/-- The fields that a clock is shown with: those of the time up to the last that is not zero, the
minute at least. -/
def shownFields (c : Clock) : List String :=
  let small :=
    if c.time.microsecond != 0 then [c.time.second, c.time.microsecond]
    else if c.time.second != 0 then [c.time.second]
    else []
  (([c.time.hour, c.time.minute] ++ small).map fun (n : Nat) => toString n) ++
    (c.ahead.map fun minutes => "tzinfo=" ++ shownAhead minutes).toList

end Clock

/-- A day, perhaps with a time. -/
structure Moment where
  date : Date
  clock : Option Clock := none
deriving Repr, DecidableEq, Inhabited

namespace Moment

/-- Whether there is such a moment. -/
def isValid (m : Moment) : Bool :=
  m.date.isValid && m.clock.all (·.isValid)

/-- A moment in writing. -/
def text (m : Moment) : String :=
  m.date.text ++ (m.clock.map fun c => " " ++ c.text).getD ""

/-- A moment shown by its fields. -/
def shown (m : Moment) : String :=
  let fields := [m.date.year, m.date.month, m.date.day].map fun (n : Nat) => toString n
  match m.clock with
  | none => "datetime.date(" ++ ", ".intercalate fields ++ ")"
  | some clock => "datetime.datetime(" ++ ", ".intercalate (fields ++ clock.shownFields) ++ ")"

/-- The microseconds of universal time at a moment, if that is known. -/
def universal? (m : Moment) : Option Int :=
  m.clock.bind fun c => c.ahead.map fun minutes =>
    (m.date.number * Clock.minutesOfDay : Nat) * 60000000 + (c.time.microseconds : Int) -
      minutes * 60000000

/-- Whether two moments are the same: at the same universal time if that of both is known, and else
with the same fields. -/
def isSame (a b : Moment) : Bool :=
  match a.universal?, b.universal? with
  | some x, some y => x == y
  | _, _ => a == b

end Moment

end ProjectCheck
