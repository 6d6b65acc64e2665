import GraphQL.Number.Calendar
import GraphQL.Text.Display

/-!
# Reading dates and times

Dates and times in the forms of ISO 8601: with separators or without, a day by its
month or by its week, a clock reading down to hours, minutes, seconds or a
fraction, and an offset from universal time.  A text is read byte by byte in three
passes: first the fields are taken from it, then the offset is checked, and at last
each field has to lie in its range.
-/

namespace GraphQL
namespace Number

/-- Why a text stands for no date or time. -/
inductive CalendarFault
  /-- The text has none of the known forms. -/
  | malformed
  /-- An offset of a day or more. -/
  | offsetTooLarge (offset : Int)
  /-- A year that the calendar does not have. -/
  | yearOutOfRange (year : Nat)
  /-- A month that the year does not have. -/
  | monthOutOfRange
  /-- A day that the month does not have. -/
  | dayOutOfRange
  /-- An hour that the day does not have. -/
  | hourOutOfRange
  /-- A minute that the hour does not have. -/
  | minuteOutOfRange
  /-- A second that the minute does not have. -/
  | secondOutOfRange
  deriving DecidableEq, Repr

namespace CalendarFault

/-- What is said about a text that stands for no date or time. -/
def message (text : String) : CalendarFault → String
  | malformed => "Invalid isoformat string: " ++ Text.Display.text text
  | offsetTooLarge offset =>
    "offset must be a timedelta strictly between -timedelta(hours=24) and timedelta(hours=24), " ++
      "not " ++ Time.displaySpan offset ++ "."
  | yearOutOfRange year => "year " ++ toString year ++ " is out of range"
  | monthOutOfRange => "month must be in 1..12"
  | dayOutOfRange => "day is out of range for month"
  | hourOutOfRange => "hour must be in 0..23"
  | minuteOutOfRange => "minute must be in 0..59"
  | secondOutOfRange => "second must be in 0..59"

end CalendarFault

namespace Iso

/-- The bytes of a text, each as the character of its number. -/
def bytes (text : String) : List Char :=
  text.toUTF8.toList.map fun byte => Char.ofNat byte.toNat

/-- The number that the first `count` characters stand for, and the text after
them, if they are digits. -/
def readDigits (count : Nat) (cs : List Char) : Option (Nat × List Char) :=
  let ds := cs.take count
  if ds.length = count && ds.all Char.isDigit then
    some (Decimal.ofDigits ds, cs.drop count)
  else none

/-- The text after a hyphen, if there has to be one. -/
def afterHyphen (wanted : Bool) (cs : List Char) : Option (List Char) :=
  if wanted then
    match cs with
    | '-' :: rest => some rest
    | _ => none
  else some cs

/-! ## Days -/

/-- The weekday of a day by its number, where Monday is zero. -/
def weekday (ordinal : Nat) : Nat :=
  (ordinal + 6) % 7

/-- The year has fifty-three weeks: it starts on a Thursday, or on a Wednesday and
has a leap day. -/
def hasLongCount (year : Nat) : Bool :=
  let first := weekday (Date.ordinal ⟨year, 1, 1⟩)
  first = 3 || (first = 2 && Date.isLeap year)

/-- The number of the Monday of the week that has the year's first Thursday. -/
def firstMonday (year : Nat) : Nat :=
  let first := Date.ordinal ⟨year, 1, 1⟩
  if weekday first ≤ 3 then first - weekday first else first + 7 - weekday first

/-- What stands for a day before the first of the calendar, which has no month. -/
def beforeCalendar : Date := ⟨1, 0, 0⟩

/-- The day of a week of a year.  Year zero has no long count, and its days are before
the calendar. -/
def ofWeek? (year week day : Nat) : Option Date :=
  if week = 0 || 53 < week || (week = 53 && (year = 0 || !hasLongCount year)) then none
  else if day = 0 || 7 < day then none
  else if year = 0 then some beforeCalendar
  else some (Date.ofOrdinal (firstMonday year + (week - 1) * 7 + (day - 1)))

/-- The fields of a date at the front of a text.  A week without a day means its
Monday, and whether there is a day is told by `length`, where the date ends. -/
def readDate (length : Nat) (cs : List Char) : Option Date := do
  let (year, rest) ← readDigits 4 cs
  let separated := rest.head? = some '-'
  let rest := if separated then rest.drop 1 else rest
  match rest with
  | 'W' :: rest =>
    let (week, rest) ← readDigits 2 rest
    if cs.length - rest.length < length then
      let (day, _) ← readDigits 1 (← afterHyphen separated rest)
      ofWeek? year week day
    else ofWeek? year week 1
  | rest =>
    let (month, rest) ← readDigits 2 rest
    let (day, _) ← readDigits 2 (← afterHyphen separated rest)
    return ⟨year, month, day⟩

/-- A date with fields in their ranges. -/
def checkDate (date : Date) : Except CalendarFault Date :=
  if date.year = 0 || 9999 < date.year then .error (.yearOutOfRange date.year)
  else if date.month = 0 || 12 < date.month then .error .monthOutOfRange
  else if date.day = 0 || Date.daysInMonth date.year date.month < date.day then
    .error .dayOutOfRange
  else .ok date

/-! ## Clocks -/

/-- What is read from a clock: hour, minute and second as far as they are given, a
fraction in microseconds, and whether the text stopped before its end. -/
structure Clock where
  /-- Hour, minute and second. -/
  parts : List Nat
  /-- The fraction of the second. -/
  microsecond : Nat
  /-- Something is left of the text. -/
  cutShort : Bool

namespace Clock

/-- The hour. -/
def hour (clock : Clock) : Nat := clock.parts[0]?.getD 0

/-- The minute. -/
def minute (clock : Clock) : Nat := clock.parts[1]?.getD 0

/-- The second. -/
def second (clock : Clock) : Nat := clock.parts[2]?.getD 0

/-- The microseconds of a reading. -/
def microseconds (clock : Clock) : Nat :=
  (clock.hour * 3600 + clock.minute * 60 + clock.second) * 1000000 + clock.microsecond

end Clock

/-- A fraction of a second after `parts`.  Digits after the sixth are passed over.
`next` is the character after the text. -/
def readFraction (next : Char) (parts : List Nat) (cs : List Char) : Option Clock := do
  let count := min 6 cs.length
  let (value, rest) ← readDigits count cs
  let stop := (rest.dropWhile Char.isDigit).headD next
  return ⟨parts, value * Nat.pow 10 (6 - count), stop ≠ '\x00'⟩

/-- A clock reading with at most `more` parts after the ones that are read.  Colons
stand between all parts or between none.  `next` is the character after the text. -/
def readParts (next : Char) (separated : Option Bool) (parts : List Nat) :
    Nat → List Char → Option Clock
  | 0, cs => readFraction next parts cs
  | more + 1, cs => do
    let (value, rest) ← readDigits 2 cs
    let parts := parts ++ [value]
    let separated := separated.getD (rest.headD next = ':')
    match rest with
    | [] => return ⟨parts, 0, next ≠ '\x00'⟩
    | [c] => return ⟨parts, 0, c ≠ '\x00'⟩
    | c :: rest =>
      if separated && c = ':' then readParts next (some separated) parts more rest
      else if c = '.' || c = ',' then readFraction next parts rest
      else if separated then none
      else readParts next (some separated) parts more (c :: rest)

/-- A clock reading.  `next` is the character after the text. -/
def readClock (next : Char) (cs : List Char) : Option Clock :=
  readParts next none [] 3 cs

/-- The character opens an offset. -/
def opensOffset (c : Char) : Bool :=
  c = '+' || c = '-' || c = 'Z'

/-- A clock reading and an offset in microseconds, as far as there is one.  After the
letter of universal time a text ends, or goes on with a zero byte. -/
def readTime (cs : List Char) : Option (Clock × Option Int) := do
  let clock ← readClock ((cs.dropWhile (!opensOffset ·)).headD '\x00')
    (cs.takeWhile (!opensOffset ·))
  match cs.dropWhile (!opensOffset ·) with
  | [] => if clock.cutShort then none else return (clock, none)
  | 'Z' :: rest => if rest.headD '\x00' = '\x00' then return (clock, some 0) else none
  | sign :: rest =>
    let ahead ← readClock '\x00' rest
    if ahead.cutShort then none
    else return (clock, some (if sign = '-' then -(ahead.microseconds : Int)
      else ahead.microseconds))

/-- An offset that is less than a day. -/
def checkOffset (offset? : Option Int) : Except CalendarFault (Option Int) :=
  match offset? with
  | none => .ok none
  | some offset =>
    if offset.natAbs < 1000000 then .ok (some 0)
    else if offset.natAbs < 86400000000 then .ok (some offset)
    else .error (.offsetTooLarge offset)

/-- A time with fields in their ranges. -/
def checkTime (clock : Clock) (offset? : Option Int) : Except CalendarFault Time :=
  if 23 < clock.hour then .error .hourOutOfRange
  else if 59 < clock.minute then .error .minuteOutOfRange
  else if 59 < clock.second then .error .secondOutOfRange
  else .ok ⟨clock.hour, clock.minute, clock.second, clock.microsecond, offset?⟩

/-! ## Moments -/

/-- Where the date ends at the front of a moment's text.  A hyphen after a week may
open its day or stand before the clock; it opens the day unless a digit follows
that day.  Without hyphens the clock's digits come in pairs, so that an odd number
of digits after the week means that it has a day. -/
def dateLength (cs : List Char) : Nat :=
  if cs.length = 7 then 7
  else if cs[4]? = some '-' then
    if cs[5]? = some 'W' then
      if cs[8]? = some '-' then if (cs[10]?.any Char.isDigit) then 8 else 10 else 8
    else 10
  else if cs[4]? = some 'W' then
    let stop := 7 + ((cs.drop 7).takeWhile Char.isDigit).length
    if stop < 9 then stop else if stop % 2 = 0 then 7 else 8
  else 8

/-- The number of bytes of the character that a byte opens. -/
def characterLength (c : Char) : Nat :=
  if c.toNat < 0x80 then 1
  else if c.toNat / 16 = 0xe then 3
  else if c.toNat / 16 = 0xf then 4
  else 2

/-- The text of the clock after the date, without the one character that stands
between them. -/
def clockText (length : Nat) (cs : List Char) : List Char :=
  match cs.drop length with
  | [] => []
  | c :: rest => (c :: rest).drop (characterLength c)

end Iso

open CalendarFault (malformed)

/-- What is read from a text, unless the text is malformed. -/
def orMalformed {α : Type} : Option α → Except CalendarFault α
  | some value => .ok value
  | none => .error malformed

/-- The date that a text stands for. -/
def Date.parse (text : String) : Except CalendarFault Date := do
  let cs := Iso.bytes text
  if cs.length = 7 || cs.length = 8 || cs.length = 10 then
    Iso.checkDate (← orMalformed (Iso.readDate cs.length cs))
  else throw malformed

/-- The time that a text stands for. -/
def Time.parse (text : String) : Except CalendarFault Time := do
  let cs := Iso.bytes text
  let marked := cs.head? = some 'T'
  let (clock, offset?) ← orMalformed (Iso.readTime (if marked then cs.drop 1 else cs))
  Iso.checkTime clock (← Iso.checkOffset offset?)

/-- The moment that a text stands for; a date alone is its midnight. -/
def Moment.parse (text : String) : Except CalendarFault Moment := do
  let cs := Iso.bytes text
  if cs.length < 7 then throw malformed
  let length := Iso.dateLength cs
  let date ← orMalformed (Iso.readDate length cs)
  let (clock, offset?) ←
    if cs.length ≤ length then pure (⟨[], 0, false⟩, none)
    else orMalformed (Iso.readTime (Iso.clockText length cs))
  let offset? ← Iso.checkOffset offset?
  let date ← Iso.checkDate date
  return ⟨date, ← Iso.checkTime clock offset?⟩

end Number
end GraphQL
