import ContractRisk.RiskProfile

/-!
# Reports

What a scan gives: the findings, the composite risk and what was left out of account.
-/

namespace ContractRisk

structure Report (α : Type) where
  scanId : String
  address : String
  network : String
  /-- ranked -/
  findings : List (Finding α)
  risk : RiskProfile α
  escalated : Bool
  skippedPatterns : List String
  failedDetectors : List String

namespace Report

variable {α : Type} [Scalar α]

/-- the fields of the profile with the band of its score -/
def riskFields (p : RiskProfile α) : List (String × Value) :=
  p.fields ++ [("risk_level", .text p.level.name)]

/-- the report as data -/
def fields (r : Report α) : List (String × Value) :=
  [("scan_id", .text r.scanId), ("address", .text r.address), ("network", .text r.network),
    ("findings", .list (r.findings.map Finding.toValue)), ("risk", textMap (riskFields r.risk)),
    ("escalated", .bool r.escalated), ("skipped_patterns", Finding.textList r.skippedPatterns),
    ("failed_detectors", Finding.textList r.failedDetectors)]

end Report

end ContractRisk
