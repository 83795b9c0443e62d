import ContractRisk.Finding

/-!
# Events

An event tells subscribers about one finding. `Event.ofFields` checks one that is given as data; one
without a time gets the time `now`.
-/

namespace ContractRisk

structure Event (α : Type) where
  event : String
  findingId : String
  severity : Severity
  category : Category
  address : String
  patternId : String
  riskScore : α
  scanId : String
  /-- seconds since the start of 1970 -/
  timestamp : α

namespace Event

variable {α : Type} [Scalar α]

def standardName : String := "threat_detected"

def ofFields (now : α) (fs : Fields) : Check (Event α) :=
  mk <$> Check.field fs [] ["event"] (.ok standardName) Check.text
    <*> Check.required fs [] ["finding_id"] Check.text
    <*> Check.required fs [] ["severity"] checkSeverity
    <*> Check.required fs [] ["category"] checkCategory
    <*> Check.required fs [] ["address"] Check.text
    <*> Check.field fs [] ["pattern_id"] (.ok "") Check.text
    <*> Check.field fs [] ["risk_score"] (.ok (0.0 : α)) checkScalar
    <*> Check.field fs [] ["scan_id"] (.ok "") Check.text
    <*> Check.field fs [] ["timestamp"] (.ok now) checkScalar

/-- the event of a finding about the contract at an address -/
def ofFinding (now : α) (f : Finding α) (address scanId : String) : Event α where
  event := standardName
  findingId := f.findingId
  severity := f.severity
  category := f.category
  address
  patternId := f.patternId
  riskScore := f.riskScore
  scanId
  timestamp := now

def fields (e : Event α) : List (String × Value) :=
  [("event", .text e.event), ("finding_id", .text e.findingId), ("severity", .text e.severity.name),
    ("category", .text e.category.name), ("address", .text e.address),
    ("pattern_id", .text e.patternId), ("risk_score", scalarValue e.riskScore),
    ("scan_id", .text e.scanId), ("timestamp", scalarValue e.timestamp)]

end Event

end ContractRisk
