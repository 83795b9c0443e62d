import ContractRisk.Detector
import ContractRisk.RiskProfile
import ContractRisk.Screening

/-!
# Making findings

A finding comes from a pattern that matched, from a detector's signal, or from the risk profile when a
scan is escalated. The texts of patterns and detectors are checked on the way, so there may be problems
instead of a finding.
-/

namespace ContractRisk

variable {α σ : Type} [Scalar α]

/-- the share of the confidence that counts as risk -/
def Severity.weight : Severity → α
  | .low => 0.25
  | .medium => 0.50
  | .high => 0.75
  | .critical => 1.00

/-- the risk score of a rule -/
def ruleRisk (confidence : Int) (severity : Severity) : α :=
  Scalar.ofInt confidence * severity.weight

namespace Finding

def texts (name : String) (vs : List Value) : Check (List String) :=
  Check.each [name] Check.text 0 vs

/-- the finding of a pattern that matched -/
def ofMatch (findingId : String) (m : PatternMatch α) (b : Bundle α) : Check (Finding α) :=
  let p := m.pattern
  (fun title description indicators mitigation =>
    { findingId, title, description, indicators, mitigation
      patternId := p.id
      severity := p.severity
      confidence := p.confidence
      evidence := ("Pattern " ++ p.id ++ " detected in contract " ++ b.address) :: m.evidence
      category := p.category
      riskScore := ruleRisk p.confidence p.severity
      source := .rule
      metadata := [("pattern_id", .text p.id), ("pattern_version", p.version.toValue),
        ("reference_id", p.referenceId)] })
    <$> Check.text ["title"] p.name <*> Check.text ["description"] p.description
    <*> texts "indicators" p.indicators <*> Check.text ["mitigation"] p.mitigation

/-- a signal's confidence in whole percent -/
def percentage (confidence : α) : Int :=
  max 0 (min 100 (Scalar.round (confidence * Scalar.ofInt 100)))

/-- the finding of a detector's signal -/
def ofSignal (findingId : String) (d : Detector α σ) (s : Signal α) (b : Bundle α) :
    Check (Finding α) :=
  let confidence := percentage s.confidence
  let evidence := if s.evidence.isEmpty then
      [.text (d.name.display ++ " on contract " ++ b.address)] else s.evidence
  (fun title description evidence indicators mitigation =>
    { findingId, title, description, evidence, indicators, mitigation, confidence
      patternId := d.patternId
      severity := s.severity.getD d.severity
      category := d.category
      riskScore := Scalar.ofInt confidence * d.riskScale
      source := .detector
      metadata := Check.overlay [("detector_id", .text d.id), ("raw_confidence", scalarValue s.confidence),
        ("threshold", scalarValue d.threshold)] s.metadata })
    <$> Check.text ["title"] d.name <*> Check.text ["description"] d.description
    <*> texts "evidence" evidence <*> texts "indicators" d.indicators
    <*> Check.text ["mitigation"] d.mitigation

def escalationId : String := "META001"

/-- the finding that sums up a severe profile -/
def escalation (findingId : String) (p : RiskProfile α) (b : Bundle α) : Finding α where
  findingId
  patternId := escalationId
  severity := .critical
  confidence := 95
  title := "Critical Risk Profile Detected"
  description := "Multiple severe threats detected. Composite risk score: " ++
    Scalar.fixed 1 p.score ++ "/100"
  evidence := [Text.intText p.critical ++ " critical threats",
    Text.intText p.high ++ " high-risk threats", Text.intText p.total ++ " total security findings"]
  indicators := ["multiple_critical_threats", "high_risk_correlation", "compound_threat_vectors"]
  mitigation := "Avoid — high probability of total loss"
  category := .rugPull
  riskScore := 100.0
  source := .escalation
  metadata := [("composite_risk", textMap p.fields), ("address", .text b.address)]

end Finding

end ContractRisk
