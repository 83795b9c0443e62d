import ContractRisk.Text.Numeral
import ContractRisk.Decimal.Binary64

/-!
# Dates and times of day

The proleptic Gregorian calendar: `Date.ofDays` and `Date.toDays` convert between a date and the
number of days since 1 January 1970. A `Moment` is a date with a time of day and perhaps an offset
from universal time.
-/

namespace ContractRisk

structure Date where
  year : Int
  month : Nat
  day : Nat
deriving Repr, DecidableEq, Inhabited

structure Moment where
  date : Date
  hour : Nat
  minute : Nat
  second : Nat
  micro : Nat
  /-- seconds ahead of universal time -/
  offset : Option Int
deriving Repr, DecidableEq, Inhabited

namespace Date

def isLeap (year : Int) : Bool := year % 4 = 0 && (year % 100 ≠ 0 || year % 400 = 0)

def daysInMonth (year : Int) (month : Nat) : Nat :=
  if month = 2 then if isLeap year then 29 else 28
  else if month = 4 ∨ month = 6 ∨ month = 9 ∨ month = 11 then 30 else 31

def isValid (d : Date) : Bool :=
  1 ≤ d.year && d.year ≤ 9999 && 1 ≤ d.month && d.month ≤ 12 && 1 ≤ d.day &&
    d.day ≤ daysInMonth d.year d.month

/-- days since 1 January 1970; years are counted from March, so that a leap day ends a year -/
def toDays (d : Date) : Int :=
  let y := if d.month ≤ 2 then d.year - 1 else d.year
  let era := Int.fdiv y 400
  let yearOfEra := y - era * 400
  let monthFromMarch : Int := (d.month + 9) % 12
  let dayOfYear := (153 * monthFromMarch + 2) / 5 + d.day - 1
  let dayOfEra := yearOfEra * 365 + yearOfEra / 4 - yearOfEra / 100 + dayOfYear
  era * 146097 + dayOfEra - 719468

def ofDays (days : Int) : Date :=
  let z := days + 719468
  let era := Int.fdiv z 146097
  let dayOfEra := z - era * 146097
  let yearOfEra :=
    (dayOfEra - dayOfEra / 1460 + dayOfEra / 36524 - dayOfEra / 146096) / 365
  let dayOfYear := dayOfEra - (365 * yearOfEra + yearOfEra / 4 - yearOfEra / 100)
  let monthFromMarch := (5 * dayOfYear + 2) / 153
  let day := dayOfYear - (153 * monthFromMarch + 2) / 5 + 1
  let month := if monthFromMarch < 10 then monthFromMarch + 3 else monthFromMarch - 9
  let year := yearOfEra + era * 400 + if month ≤ 2 then 1 else 0
  ⟨year, month.toNat, day.toNat⟩

def two (n : Nat) : String := Text.padLeft 2 '0' (Text.natText n)

/-- `year-month-day` -/
def iso (d : Date) : String :=
  Text.padLeft 4 '0' (Text.intText d.year) ++ "-" ++ two d.month ++ "-" ++ two d.day

end Date

/-- a difference of times, written as days and seconds -/
def spanLiteral (seconds : Int) : String :=
  let days := Int.fdiv seconds 86400
  let rest := seconds - days * 86400
  let parts := (if days = 0 then [] else ["days=" ++ Text.intText days]) ++
    (if rest = 0 then [] else ["seconds=" ++ Text.intText rest])
  "datetime.timedelta(" ++ (if parts.isEmpty then "0" else ", ".intercalate parts) ++ ")"

namespace Moment

/-- the moment a number of microseconds after the start of 1970, universal time -/
def ofMicros (micros : Int) : Moment :=
  let seconds := Int.fdiv micros 1000000
  let days := Int.fdiv seconds 86400
  let s := (seconds - days * 86400).toNat
  { date := Date.ofDays days, hour := s / 3600, minute := s / 60 % 60, second := s % 60,
    micro := (micros - seconds * 1000000).toNat, offset := some 0 }

/-- microseconds since the start of 1970, read as universal time if there is no offset -/
def toMicros (m : Moment) : Int :=
  ((m.date.toDays * 24 + m.hour) * 3600 + m.minute * 60 + m.second - m.offset.getD 0) * 1000000 +
    m.micro

/-- `hour:minute:second` -/
def clock (m : Moment) : String :=
  Date.two m.hour ++ ":" ++ Date.two m.minute ++ ":" ++ Date.two m.second

def offsetText (seconds : Int) : String :=
  let n := seconds.natAbs
  (if seconds < 0 then "-" else "+") ++ Date.two (n / 3600) ++ ":" ++ Date.two (n / 60 % 60) ++
    if n % 60 = 0 then "" else ":" ++ Date.two (n % 60)

/-- date, time of day with its fraction if there is one, and offset -/
def iso (separator : String) (m : Moment) : String :=
  m.date.iso ++ separator ++ m.clock ++
    (if m.micro = 0 then "" else "." ++ Text.padLeft 6 '0' (Text.natText m.micro)) ++
    m.offset.elim "" offsetText

end Moment

end ContractRisk
