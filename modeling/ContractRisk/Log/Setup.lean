import ContractRisk.Log.Record

/-!
# Log setups

The environment decides the form of log lines, a level name how serious a message must be to be written.
Libraries are kept at warnings and above.
-/

namespace ContractRisk.Log

inductive Form where
  | json
  | colored
deriving Repr, DecidableEq

structure Setup where
  form : Form
  /-- the least level that is written -/
  threshold : Int

/-- a message on its way into the log -/
structure Call where
  logger : String
  level : Int
  template : String
  values : List Value
  attributes : Fields
  /-- scan and address that the logger stamps on all its messages -/
  bound : Option (String × String)

namespace Setup

/-- the capital of a letter that has one in ASCII -/
def capital (c : Char) : Char :=
  if c = 'ı' then 'I' else if c = 'ſ' then 'S' else c.toUpper

def levelOfName : List (String × Int) :=
  [("CRITICAL", 50), ("FATAL", 50), ("ERROR", 40), ("WARN", 30), ("WARNING", 30), ("INFO", 20),
    ("DEBUG", 10), ("NOTSET", 0)]

/-- the level of a name in any letter case, that of information if there is none -/
def thresholdOf (name : String) : Int :=
  (levelOfName.lookup (String.ofList (name.toList.map capital))).getD 20

def formOf (environment : String) : Form :=
  if environment = "staging" ∨ environment = "production" then .json else .colored

def ofNames (environment level : String) : Setup := ⟨formOf environment, thresholdOf level⟩

/-! ## what is written -/

def libraries : List String := ["httpcore", "httpx", "asyncio"]

def libraryThreshold (s : Setup) : Int := max s.threshold 30

def isLibrary (logger : String) : Bool :=
  libraries.any fun l => logger = l || (l ++ ".").toList.isPrefixOf logger.toList

def writes (s : Setup) (logger : String) (level : Int) : Bool :=
  0 < level && (if isLibrary logger then s.libraryThreshold else s.threshold) ≤ level

/-- the attributes of a call over those that its logger stamps on it -/
def attributesOf (c : Call) : Fields :=
  match c.bound with
  | none => c.attributes
  | some (scan, address) =>
    Check.overlay [("scan_id", .text scan), ("address", .text address)] c.attributes

/-- names that attributes must not have -/
def reserved : List String :=
  ["message", "asctime", "name", "msg", "args", "levelname", "levelno", "pathname", "filename",
    "module", "exc_info", "exc_text", "stack_info", "lineno", "funcName", "created", "msecs",
    "relativeCreated", "thread", "threadName", "processName", "process"]

/-- the record of a call at a time -/
def record (c : Call) (time : Float) : Record where
  created := time
  level := c.level
  logger := if c.logger.isEmpty then "root" else c.logger
  template := c.template
  values := c.values
  path := ""
  function := none
  line := 0
  attributes := attributesOf c
  fault := none

/-- the record of a call that is written, the reserved name of an attribute if there is one -/
def record? (s : Setup) (c : Call) (time : Float) : Except String (Option Record) :=
  if !s.writes c.logger c.level then .ok none
  else match (attributesOf c).find? fun f => reserved.contains f.1 with
    | some f => .error f.1
    | none => .ok (some (record c time))

end Setup

end ContractRisk.Log
