import ContractRisk.Calendar

/-!
# Timestamps

The text of a time that is given in seconds: whole seconds, rounded down, in universal time. A clock
counts seconds in 64 bits and a calendar years in 32 bits; times beyond either have no timestamp.
-/

namespace ContractRisk

/-- why a time has no timestamp -/
inductive TimeFault where
  | noNumber
  | beyondClock
  | beyondCalendar
  /-- the year counts from 1900 in 32 bits, but not from the year zero -/
  | beyondYears
  /-- a calendar of years from 1 to 9999 has no such year -/
  | yearRange (year : Int)
deriving Repr, DecidableEq

def TimeFault.message : TimeFault → String
  | noNumber => "Invalid value NaN (not a number)"
  | beyondClock => "timestamp out of range for platform time_t"
  | beyondCalendar => "[Errno 75] Value too large for defined data type"
  | beyondYears => "year out of range"
  | yearRange year => "year " ++ Text.intText year ++ " is out of range"

/-- the moment a number of seconds after the start of 1970, if clock and calendar hold it -/
def Moment.ofSeconds? (seconds : Int) : Except TimeFault Moment :=
  let m := Moment.ofMicros (seconds * 1000000)
  if seconds < -2 ^ 63 ∨ 2 ^ 63 < seconds then .error .beyondClock
  else if m.date.year < 1900 - 2 ^ 31 ∨ 1900 + 2 ^ 31 ≤ m.date.year then .error .beyondCalendar
  else if 2 ^ 31 ≤ m.date.year then .error .beyondYears
  else .ok m

/-- date and time of day, the year without padding -/
def Moment.stamp (m : Moment) : String :=
  Text.intText m.date.year ++ "-" ++ Date.two m.date.month ++ "-" ++ Date.two m.date.day ++ "T" ++
    m.clock ++ "Z"

def timestamp (time : Float) : Except TimeFault String :=
  match Binary64.floor? time with
  | some seconds => (Moment.ofSeconds? seconds).map Moment.stamp
  | none => .error (if time.isNaN then .noNumber else .beyondClock)

end ContractRisk
