import ContractRisk.Check
import ContractRisk.Fault
import ContractRisk.Json.Writer
import ContractRisk.Bundle.View
import ContractRisk.Log.Template
import ContractRisk.Text.Search
import ContractRisk.Timestamp

/-!
# Log records

A `Record` is one message with its level, its place and its context. It is written as a JSON object or as a
coloured line. The context are the fields that say which scan, contract, pattern or detector the message is
about, and how long something took.
-/

namespace ContractRisk.Log

/-- the names of the levels that have one -/
def levels : List (Int × String) :=
  [(0, "NOTSET"), (10, "DEBUG"), (20, "INFO"), (30, "WARNING"), (40, "ERROR"), (50, "CRITICAL")]

def levelName (level : Int) : String := (levels.lookup level).getD ("Level " ++ Text.intText level)

structure Record where
  /-- seconds since the start of 1970 -/
  created : Float
  level : Int
  logger : String
  template : String
  values : List Value
  /-- the file that the message comes from -/
  path : String
  function : Option String
  line : Int
  attributes : Fields
  fault : Option Fault

/-- why a record has no text -/
inductive RecordFault where
  | time (f : TimeFault)
  | message (f : TemplateFault)
deriving Repr, DecidableEq

def RecordFault.text : RecordFault → String
  | time f => f.message
  | message f => f.message

namespace Record

/-! ## parts -/

def contextKeys : List String := ["scan_id", "address", "pattern_id", "detector", "duration_ms"]

/-- the attributes that are context and not null -/
def context (r : Record) : Fields :=
  contextKeys.filterMap fun key =>
    match Check.find? key r.attributes with
    | none | some .null => none
    | some v => some (key, v)

/-- the microseconds of a time, rounded from its fraction of a second -/
def micros? (time : Float) : Option Int := do
  let whole ← Binary64.truncate? time
  let part ← Binary64.round? ((time - Binary64.ofInt whole) * 1000000.0)
  return whole * 1000000 + part

/-- the moment of a time; calendars of records have years of one to four digits -/
def momentOf (time : Float) : Except TimeFault Moment :=
  match micros? time with
  | none => .error (if time.isNaN then .noNumber else .beyondClock)
  | some micros =>
    match Moment.ofSeconds? (Int.fdiv micros 1000000) with
    | .error f => .error f
    | .ok m =>
      if m.date.isValid then .ok (Moment.ofMicros micros) else .error (.yearRange m.date.year)

def moment (r : Record) : Except RecordFault Moment := (momentOf r.created).mapError .time

def message (r : Record) : Except RecordFault String :=
  (Template.fill r.template r.values).mapError .message

/-- the last part of a path -/
def fileName (path : List Char) : List Char := (Text.splitOn '/' path).getLastD []

/-- a file name without its ending; dots in front begin no ending -/
def stem (name : List Char) : List Char :=
  let front := name.takeWhile (· = '.')
  let rest := name.dropWhile (· = '.')
  if rest.contains '.' then front ++ ((rest.reverse.dropWhile (· ≠ '.')).drop 1).reverse else name

/-- module, function and line -/
def source (r : Record) : String :=
  String.ofList (stem (fileName r.path.toList)) ++ ":" ++ r.function.getD "None" ++ ":" ++
    Text.intText r.line

/-- the kind of a fault with what it says, if it says anything -/
def faultText (f : Fault) : String := if f.detail.isEmpty then f.kind else f.kind ++ ": " ++ f.detail

def faultValue (f : Fault) : Value :=
  textMap [("type", .text f.kind), ("message", .text f.detail), ("traceback", .text (faultText f))]

/-! ## JSON -/

def fields (r : Record) : Except RecordFault Fields := do
  let moment ← r.moment
  let message ← r.message
  let own := [("timestamp", .text (moment.iso "T")), ("level", .text (levelName r.level)),
    ("logger", .text r.logger), ("message", .text message), ("source", .text r.source)]
  return own ++ r.context ++ (r.fault.map fun f => ("exception", faultValue f)).toList

def jsonLine (r : Record) : Except RecordFault String :=
  r.fields.map fun fs => Json.record.text (textMap fs)

/-! ## coloured lines -/

def reset : String := "\x1b[0m"
def dim : String := "\x1b[2m"

/-- the control sequence for the colour of a level -/
def color (level : Int) : String :=
  match level with
  | 10 => "\x1b[36m"
  | 20 => "\x1b[32m"
  | 30 => "\x1b[33m"
  | 40 => "\x1b[31m"
  | 50 => "\x1b[35m"
  | _ => ""

def scanMark (context : Fields) : List String :=
  ((Check.find? "scan_id" context).map fun v =>
    "[" ++ String.ofList (v.display.toList.take 8) ++ "]").toList

/-- the pattern, or else the detector, that the message is about -/
def subjectMark (context : Fields) : List String :=
  let given (key : String) := (Check.find? key context).filter fun v => !v.isVoid
  (((given "pattern_id").or (given "detector")).map fun v => "[" ++ v.display ++ "]").toList

def durationMark (context : Fields) : List String :=
  ((Check.find? "duration_ms" context).map fun v => "(" ++ v.display ++ "ms)").toList

def coloredLine (r : Record) : Except RecordFault String := do
  let moment ← r.moment
  let message ← r.message
  let head := color r.level ++ moment.clock ++ " " ++ Text.padLeft 8 ' ' (levelName r.level) ++ reset
  let parts := [head] ++ scanMark r.context ++ subjectMark r.context ++
    [dim ++ r.logger ++ reset ++ ": " ++ message] ++ durationMark r.context
  return " ".intercalate parts ++ (r.fault.elim "" fun f => "\n" ++ faultText f)

end Record

end ContractRisk.Log
