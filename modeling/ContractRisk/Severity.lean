/-!
# Severities, categories and risk levels

The closed vocabularies of findings. `ofName?` is the inverse of `name` in each (`ofName?_name`).
-/

namespace ContractRisk

inductive Severity where
  | low
  | medium
  | high
  | critical
deriving Repr, DecidableEq, Inhabited

namespace Severity

def name : Severity → String
  | low => "low"
  | medium => "medium"
  | high => "high"
  | critical => "critical"

/-- the name in capitals -/
def title : Severity → String
  | low => "LOW"
  | medium => "MEDIUM"
  | high => "HIGH"
  | critical => "CRITICAL"

def all : List Severity := [low, medium, high, critical]

def ofName? (s : String) : Option Severity := all.find? fun v => v.name == s

theorem ofName?_name (v : Severity) : ofName? v.name = some v := by cases v <;> decide

theorem mem_all (v : Severity) : v ∈ all := by cases v <;> decide

/-- points that a finding of this severity adds to the composite score -/
def points : Severity → Nat
  | critical => 25
  | high => 15
  | medium => 8
  | low => 3

def maxPoints : Nat := critical.points

def rank : Severity → Nat
  | low => 0
  | medium => 1
  | high => 2
  | critical => 3

def atLeast (v floor : Severity) : Bool := floor.rank ≤ v.rank

/-- critical and high findings fail a scan -/
def isSevere : Severity → Bool
  | critical | high => true
  | medium | low => false

end Severity

inductive Category where
  | honeypot
  | rugPull
  | phishing
  | mintAbuse
  | liquidityManipulation
  | socialEngineering
  | codeVulnerability
deriving Repr, DecidableEq, Inhabited

namespace Category

def name : Category → String
  | honeypot => "honeypot"
  | rugPull => "rug_pull"
  | phishing => "phishing"
  | mintAbuse => "mint_abuse"
  | liquidityManipulation => "liquidity_manipulation"
  | socialEngineering => "social_engineering"
  | codeVulnerability => "code_vulnerability"

def all : List Category :=
  [honeypot, rugPull, phishing, mintAbuse, liquidityManipulation, socialEngineering,
    codeVulnerability]

def ofName? (s : String) : Option Category := all.find? fun v => v.name == s

theorem ofName?_name (v : Category) : ofName? v.name = some v := by cases v <;> decide

theorem mem_all (v : Category) : v ∈ all := by cases v <;> decide

end Category

/-- where a finding comes from -/
inductive Origin where
  | rule
  | detector
  | escalation
deriving Repr, DecidableEq, Inhabited

namespace Origin

def name : Origin → String
  | rule => "rule"
  | detector => "detector"
  | escalation => "meta"

def all : List Origin := [rule, detector, escalation]

def ofName? (s : String) : Option Origin := all.find? fun v => v.name == s

theorem ofName?_name (v : Origin) : ofName? v.name = some v := by cases v <;> decide

end Origin

/-- the band of a composite score -/
inductive RiskLevel where
  | minimal
  | low
  | medium
  | high
  | critical
deriving Repr, DecidableEq, Inhabited

namespace RiskLevel

def name : RiskLevel → String
  | minimal => "minimal"
  | low => "low"
  | medium => "medium"
  | high => "high"
  | critical => "critical"

/-- the name in capitals -/
def title : RiskLevel → String
  | minimal => "MINIMAL"
  | low => "LOW"
  | medium => "MEDIUM"
  | high => "HIGH"
  | critical => "CRITICAL"

end RiskLevel

end ContractRisk
