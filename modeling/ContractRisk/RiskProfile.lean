import ContractRisk.Finding

/-!
# Composite risk

`RiskProfile.ofSeverities` counts findings by severity and scores them: the points of all findings as
a share of what as many critical ones would give, in percent. Above 90 a scan is escalated.
-/

namespace ContractRisk

structure RiskProfile (α : Type) where
  critical : Int
  high : Int
  medium : Int
  low : Int
  total : Int
  score : α

namespace RiskProfile

variable {α : Type} [Scalar α]

/-- the points of all findings -/
def points (ss : List Severity) : Nat := ss.foldr (fun s n => s.points + n) 0

/-- the score of findings with these severities -/
def scoreOf (ss : List Severity) : α :=
  if ss.isEmpty then (0.0 : α)
  else
    let share : α := Scalar.ofInt (points ss) / Scalar.ofInt (ss.length * Severity.maxPoints) *
      Scalar.ofInt 100
    Scalar.greater (0.0 : α) (Scalar.lesser (100.0 : α) share)

def ofSeverities (ss : List Severity) : RiskProfile α where
  critical := ss.count .critical
  high := ss.count .high
  medium := ss.count .medium
  low := ss.count .low
  total := ss.length
  score := scoreOf ss

def ofFindings (fs : List (Finding α)) : RiskProfile α := ofSeverities (fs.map (·.severity))

/-- a profile with a given score and no findings -/
def ofScore (score : α) : RiskProfile α := ⟨0, 0, 0, 0, 0, score⟩

/-- the band of the score -/
def level (p : RiskProfile α) : RiskLevel :=
  if (90.0 : α) ≤ p.score then .critical
  else if (75.0 : α) ≤ p.score then .high
  else if (50.0 : α) ≤ p.score then .medium
  else if (25.0 : α) ≤ p.score then .low
  else .minimal

def escalationBound : α := 90.0

def needsEscalation (p : RiskProfile α) : Bool := (escalationBound : α) < p.score

def fields (p : RiskProfile α) : List (String × Value) :=
  [("critical_count", .int p.critical), ("high_count", .int p.high), ("medium_count", .int p.medium),
    ("low_count", .int p.low), ("total_findings", .int p.total), ("score", scalarValue p.score)]

end RiskProfile

end ContractRisk
