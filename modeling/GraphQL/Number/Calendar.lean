import GraphQL.Number.Decimal

/-!
# Dates and times

Dates of the Gregorian calendar, times of day to the microsecond, and moments
made of both.  A time may say how many microseconds its clock is ahead of
universal time.  `text` writes the standard form, with a fraction only where it is not
zero; `display` writes the form used in messages.
-/

namespace GraphQL
namespace Number

/-- A decimal number filled up with zeros on the left. -/
def padded (width n : Nat) : String :=
  let ds := Decimal.digits n
  String.ofList (List.replicate (width - ds.length) '0' ++ ds)

/-- A day of the calendar. -/
structure Date where
  /-- The year. -/
  year : Nat
  /-- The month, from one. -/
  month : Nat
  /-- The day of the month, from one. -/
  day : Nat
  deriving DecidableEq, Repr

namespace Date

/-- The year has a twenty-ninth of February. -/
def isLeap (year : Nat) : Bool :=
  year % 4 = 0 && (year % 100 ≠ 0 || year % 400 = 0)

/-- The number of days of a month. -/
def daysInMonth (year month : Nat) : Nat :=
  if month = 2 then if isLeap year then 29 else 28
  else if month = 4 || month = 6 || month = 9 || month = 11 then 30
  else 31

/-- The days of a year before a month. -/
def daysBeforeMonth (year : Nat) : Nat → Nat
  | 0 => 0
  | month + 1 => daysBeforeMonth year month + if month = 0 then 0 else daysInMonth year month

/-- The number of a day, counted from the first day of year one. -/
def ordinal (date : Date) : Nat :=
  let before := date.year - 1
  before * 365 + before / 4 - before / 100 + before / 400 +
    daysBeforeMonth date.year date.month + date.day

/-- The standard text of a date. -/
def text (date : Date) : String :=
  padded 4 date.year ++ "-" ++ padded 2 date.month ++ "-" ++ padded 2 date.day

/-- The day with a number, counted from the first day of year one.  A period of four
hundred years, of a hundred or of four has one day more than its parts may say,
which is the last day of its last year. -/
def ofOrdinal (n : Nat) : Date :=
  let day := n - 1
  let inCentury := day % 146097 % 36524
  let inYear := inCentury % 1461 % 365
  let centuries := day % 146097 / 36524
  let years := inCentury % 1461 / 365
  let year := day / 146097 * 400 + centuries * 100 + inCentury / 1461 * 4 + years
  if centuries = 4 || years = 4 then ⟨year, 12, 31⟩
  else
    let month := 12 - (((List.range 12).find? fun k =>
      daysBeforeMonth (year + 1) (12 - k) ≤ inYear).getD 11)
    ⟨year + 1, month, inYear - daysBeforeMonth (year + 1) month + 1⟩

/-- A date as shown in messages. -/
def display (date : Date) : String :=
  s!"datetime.date({date.year}, {date.month}, {date.day})"

end Date

/-- A time of day, on a clock that may be tied to universal time. -/
structure Time where
  /-- The hour. -/
  hour : Nat
  /-- The minute. -/
  minute : Nat
  /-- The second. -/
  second : Nat
  /-- The millionths of the second. -/
  microsecond : Nat
  /-- The microseconds that the clock is ahead of universal time. -/
  offset? : Option Int
  deriving DecidableEq, Repr

namespace Time

/-- The seconds of an offset, without its sign. -/
def offsetSeconds (offset : Int) : Nat :=
  offset.natAbs / 1000000

/-- The sign, hours and minutes of an offset. -/
def offsetMinutesText (offset : Int) : String :=
  let n := offsetSeconds offset
  (if offset < 0 then "-" else "+") ++ padded 2 (n / 3600) ++ ":" ++ padded 2 (n / 60 % 60)

/-- The standard text of an offset, with seconds and a fraction only where they are
not zero. -/
def offsetText (offset : Int) : String :=
  let second := offsetSeconds offset % 60
  let microsecond := offset.natAbs % 1000000
  offsetMinutesText offset ++
    (if second = 0 && microsecond = 0 then "" else ":" ++ padded 2 second) ++
    if microsecond = 0 then "" else "." ++ padded 6 microsecond

/-- The text of a time without its offset. -/
def clockText (time : Time) : String :=
  padded 2 time.hour ++ ":" ++ padded 2 time.minute ++ ":" ++ padded 2 time.second ++
    if time.microsecond = 0 then "" else "." ++ padded 6 time.microsecond

/-- The standard text of a time. -/
def text (time : Time) : String :=
  time.clockText ++ (time.offset?.map offsetText).getD ""

/-- The text of a time as sent, where universal time is marked by a letter and
offsets have whole minutes. -/
def sentText (time : Time) : String :=
  time.clockText ++
    match time.offset? with
    | none => ""
    | some offset => if offset = 0 then "Z" else offsetMinutesText offset

/-- The microseconds since midnight of a clock's reading. -/
def sinceMidnight (time : Time) : Nat :=
  (time.hour * 3600 + time.minute * 60 + time.second) * 1000000 + time.microsecond

/-- The second of universal time that a clock shows under an offset, of which a
fraction of a second is passed over downwards. -/
def universalSecond (time : Time) (offset : Int) : Int :=
  (time.hour * 3600 + time.minute * 60 + time.second : Nat) - offset / 1000000

/-- Two times, of which either both or none are tied to universal time, are the
same: they show one second and one fraction of it. -/
def same (a b : Time) : Bool :=
  match a.offset?, b.offset? with
  | none, none => a.sinceMidnight = b.sinceMidnight
  | some x, some y =>
    a.universalSecond x = b.universalSecond y && a.microsecond = b.microsecond
  | _, _ => false

/-- The parts of a clock reading that are shown: seconds and millionths are left
out when nothing but zeros follows. -/
def shownParts (time : Time) : List Nat :=
  if time.microsecond ≠ 0 then [time.hour, time.minute, time.second, time.microsecond]
  else if time.second ≠ 0 then [time.hour, time.minute, time.second]
  else [time.hour, time.minute]

/-- A span of microseconds as shown in messages: days, seconds and microseconds, of
which only the days can be negative. -/
def displaySpan (span : Int) : String :=
  let part (name : String) (n : Int) : List String :=
    if n = 0 then [] else [name ++ "=" ++ toString n]
  let parts := part "days" (span / 86400000000) ++
    part "seconds" (span % 86400000000 / 1000000) ++ part "microseconds" (span % 1000000)
  "datetime.timedelta(" ++ (if parts.isEmpty then "0" else ", ".intercalate parts) ++ ")"

/-- An offset as shown in messages. -/
def displayOffset : Option Int → String
  | none => ""
  | some offset =>
    if offset = 0 then ", tzinfo=datetime.timezone.utc"
    else ", tzinfo=datetime.timezone(" ++ displaySpan offset ++ ")"

/-- Numbers with a comma between neighbours. -/
def commaSeparated (ns : List Nat) : String :=
  ", ".intercalate (ns.map fun n => String.ofList (Decimal.digits n))

/-- A time as shown in messages. -/
def display (time : Time) : String :=
  "datetime.time(" ++ commaSeparated time.shownParts ++ displayOffset time.offset? ++ ")"

end Time

/-- A moment: a time on a day. -/
structure Moment where
  /-- The day. -/
  date : Date
  /-- The time of the day. -/
  time : Time
  deriving DecidableEq, Repr

namespace Moment

/-- The standard text of a moment. -/
def text (moment : Moment) : String :=
  moment.date.text ++ "T" ++ moment.time.text

/-- The text of a moment as sent. -/
def sentText (moment : Moment) : String :=
  moment.date.text ++ "T" ++ moment.time.sentText

/-- The microseconds from the first day of year one to a clock's reading. -/
def sinceYearOne (moment : Moment) : Int :=
  moment.date.ordinal * 86400000000 + moment.time.sinceMidnight

/-- Two moments are the same; one that is tied to universal time is never the
same as one that is not. -/
def same (a b : Moment) : Bool :=
  match a.time.offset?, b.time.offset? with
  | none, none => a.sinceYearOne = b.sinceYearOne
  | some x, some y => a.sinceYearOne - x = b.sinceYearOne - y
  | _, _ => false

/-- A moment as shown in messages. -/
def display (moment : Moment) : String :=
  let date := moment.date
  "datetime.datetime(" ++
    Time.commaSeparated ([date.year, date.month, date.day] ++ moment.time.shownParts) ++
    Time.displayOffset moment.time.offset? ++ ")"

end Moment
end Number
end GraphQL
