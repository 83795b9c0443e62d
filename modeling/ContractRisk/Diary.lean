import ContractRisk.Value

/-!
# The diary

What happens behind the answers is noted: which part of the library notes it, how serious it is, a line of
text and the scan, contract, pattern or detector that it is about.
-/

namespace ContractRisk

/-- the parts of the library that write into the diary -/
inductive Topic where
  | engine
  | screening
  | registry
  | patternFile
  | bus
  | notification
deriving Repr, DecidableEq

def Topic.name : Topic → String
  | engine => "threatscan.analyzer.engine"
  | screening => "threatscan.analyzer.dispatch"
  | registry => "threatscan.analyzer.registry"
  | patternFile => "threatscan.analyzer.pattern_loader"
  | bus => "threatscan.services.events"
  | notification => "threatscan.services.notifications"

inductive Weight where
  | info
  | warning
  | error
deriving Repr, DecidableEq

def Weight.name : Weight → String
  | info => "INFO"
  | warning => "WARNING"
  | error => "ERROR"

/-- what a note is about -/
structure Context where
  scan : Option String
  address : Option String
  pattern : Option String
  detector : Option String
  /-- does the note also give the time that was taken? -/
  timed : Bool
deriving Repr, DecidableEq

namespace Context

def none : Context := ⟨.none, .none, .none, .none, false⟩

def ofScan (scan address : String) : Context := { none with scan := some scan, address := some address }

def ofPattern (id : String) : Context := { none with pattern := some id }

end Context

structure Note where
  topic : Topic
  weight : Weight
  message : String
  context : Context
deriving Repr, DecidableEq

/-- notes in the order in which they were written -/
abbrev Diary := List Note

end ContractRisk
