import ContractRisk.Bundle.Reading
import ContractRisk.Bundle.View
import ContractRisk.Severity

/-!
# Findings

A `Finding` is one reported issue. `Finding.ofFields` checks one that is given as data; `rank` sorts by
risk score, the highest first, and keeps the order of equal scores.
-/

namespace ContractRisk

structure Finding (α : Type) where
  findingId : String
  patternId : String
  severity : Severity
  /-- from 0 to 100 -/
  confidence : Int
  title : String
  description : String
  evidence : List String
  indicators : List String
  mitigation : String
  category : Category
  riskScore : α
  source : Origin
  metadata : List (String × Value)

/-! ## checks of closed vocabularies -/

def checkSeverity : List String → Value → Check Severity :=
  Check.among (Severity.all.map Severity.name) Severity.ofName?

def checkCategory : List String → Value → Check Category :=
  Check.among (Category.all.map Category.name) Category.ofName?

def checkOrigin : List String → Value → Check Origin :=
  Check.among (Origin.all.map Origin.name) Origin.ofName?

/-- a whole number from 0 to 100 -/
def checkConfidenceField (path : List String) (v : Value) : Check Int :=
  match Check.integer path v with
  | .error p => .error p
  | .ok i =>
    if i < 0 then Check.fail path (.below 0)
    else if 100 < i then Check.fail path (.above 100)
    else .ok i

namespace Finding

variable {α : Type} [Scalar α]

def ofFields (fs : Fields) : Check (Finding α) :=
  mk <$> Check.required fs [] ["finding_id"] Check.text
    <*> Check.required fs [] ["pattern_id"] Check.text
    <*> Check.required fs [] ["severity"] checkSeverity
    <*> Check.required fs [] ["confidence"] checkConfidenceField
    <*> Check.required fs [] ["title"] Check.text
    <*> Check.required fs [] ["description"] Check.text
    <*> Check.field fs [] ["evidence"] (.ok []) (Check.list .memory Check.text)
    <*> Check.field fs [] ["indicators"] (.ok []) (Check.list .memory Check.text)
    <*> Check.field fs [] ["mitigation"] (.ok "") Check.text
    <*> Check.required fs [] ["category"] checkCategory
    <*> Check.required fs [] ["risk_score"] checkScalar
    <*> Check.field fs [] ["source"] (.ok .rule) checkOrigin
    <*> Check.field fs [] ["metadata"] (.ok []) (Check.fields .memory)

def textList (xs : List String) : Value := .list (xs.map .text)

/-- everything but the identifier, as data -/
def content (f : Finding α) : List (String × Value) :=
  [("pattern_id", .text f.patternId), ("severity", .text f.severity.name),
    ("confidence", .int f.confidence), ("title", .text f.title),
    ("description", .text f.description), ("evidence", textList f.evidence),
    ("indicators", textList f.indicators), ("mitigation", .text f.mitigation),
    ("category", .text f.category.name), ("risk_score", scalarValue f.riskScore),
    ("source", .text f.source.name), ("metadata", textMap f.metadata)]

def toValue (f : Finding α) : Value := textMap (("finding_id", .text f.findingId) :: f.content)

/-- do two findings agree in everything but the identifier? -/
def sameContent (f g : Finding α) : Bool := (textMap f.content).same (textMap g.content)

/-- may `f` stand before `g`? -/
def outranks (f g : Finding α) : Bool := !decide (f.riskScore < g.riskScore)

/-- by risk score, the highest first; equal scores keep their order -/
def rank (fs : List (Finding α)) : List (Finding α) := fs.mergeSort outranks

end Finding

end ContractRisk
