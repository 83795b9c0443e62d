import ContractRisk.Bundle
import ContractRisk.Json.Document
import ContractRisk.Json.Writer
import ContractRisk.Scalar

/-!
# The serialised bundle

`Bundle.toValue` is a bundle as data under camel-case keys, missing parts left out. `Bundle.view` is the
compact JSON text of these data, which text and rule conditions search. There is none if the free data of the
bundle have no document.
-/

namespace ContractRisk

/-! ## bundles as data -/

def textMap (fs : List (String × Value)) : Value := .map (fs.map fun f => (.text f.1, f.2))

/-- keys with the values that are there -/
def present (fs : List (String × Option Value)) : List (String × Value) :=
  fs.filterMap fun f => f.2.map fun v => (f.1, v)

section
variable {α : Type} [Scalar α]

def scalarValue (x : α) : Value := .float (Scalar.toFloat x)

def isNull : Value → Bool
  | .null => true
  | _ => false

def AbiEntry.toValue (e : AbiEntry) : Value :=
  textMap (present [("name", e.name.map .text), ("type", some (.text e.type)),
      ("stateMutability", e.stateMutability.map .text),
      ("inputs", some (.list (e.inputs.map textMap))),
      ("outputs", some (.list (e.outputs.map textMap)))] ++
    e.extras.filter fun f => !isNull f.2)

/-- the entry with documents for its free data -/
def AbiEntry.document (e : AbiEntry) : Except DocumentFault AbiEntry := do
  let inputs ← e.inputs.mapM documentFields
  let outputs ← e.outputs.mapM documentFields
  let extras ← documentFields e.extras
  .ok { e with inputs, outputs, extras }

def HolderShare.toValue (h : HolderShare α) : Value :=
  textMap [("address", .text h.address), ("percentage", scalarValue h.percentage)]

def LiquidityMetrics.toValue (l : LiquidityMetrics α) : Value :=
  textMap (present [("lockedPercentage", l.lockedPercentage.map scalarValue),
    ("hasTimelock", l.hasTimelock.map .bool), ("ownerCanRemove", l.ownerCanRemove.map .bool)])

def TokenMetrics.toValue (t : TokenMetrics α) : Value :=
  textMap (present [("topHolders", some (.list (t.topHolders.map HolderShare.toValue))),
    ("liquidity", t.liquidity.map LiquidityMetrics.toValue)])

def TeamMetrics.toValue (t : TeamMetrics α) : Value :=
  textMap (present [("stockPhotosDetected", t.stockPhotosDetected.map .int),
    ("linkedinProfilesValid", t.linkedinProfilesValid.map scalarValue),
    ("consistencyScore", t.consistencyScore.map scalarValue)])

def WebsiteMetrics.toValue (w : WebsiteMetrics α) : Value :=
  textMap (present [("similarityToLegitProject", w.similarityToLegitProject.map scalarValue),
    ("contentCopiedScore", w.contentCopiedScore.map scalarValue),
    ("brandingCopiedScore", w.brandingCopiedScore.map scalarValue)])

def SocialMetrics.toValue (s : SocialMetrics α) : Value :=
  textMap (present [("team", s.team.map TeamMetrics.toValue),
    ("website", s.website.map WebsiteMetrics.toValue),
    ("botFollowerPercentage", s.botFollowerPercentage.map scalarValue),
    ("coordinatedPostingScore", s.coordinatedPostingScore.map scalarValue),
    ("organicGrowthScore", s.organicGrowthScore.map scalarValue)])

def TransactionRecord.toValue (t : TransactionRecord α) : Value :=
  textMap [("hash", .text t.hash), ("fromAddress", .text t.fromAddress),
    ("toAddress", .text t.toAddress), ("value", scalarValue t.value), ("method", .text t.method),
    ("success", .bool t.success)]

namespace Bundle

def toValue (b : Bundle α) : Value :=
  textMap (present [("address", some (.text b.address)), ("network", some (.text b.network)),
    ("bytecode", b.bytecode.map .text), ("sourceCode", b.sourceCode.map .text),
    ("abi", b.abi.map fun es => .list (es.map AbiEntry.toValue)), ("metadata", b.metadata.map textMap),
    ("transactions", b.transactions.map fun ts => .list (ts.map TransactionRecord.toValue)),
    ("tokenMetrics", b.tokenMetrics.map TokenMetrics.toValue),
    ("socialMetrics", b.socialMetrics.map SocialMetrics.toValue)])

/-- the bundle with documents for its free data -/
def document (b : Bundle α) : Except DocumentFault (Bundle α) := do
  let abi ← b.abi.mapM fun es => es.mapM AbiEntry.document
  let metadata ← b.metadata.mapM documentFields
  .ok { b with abi, metadata }

/-- the serialised text, or why there is none -/
def view (b : Bundle α) : Except DocumentFault String := do
  let b ← b.document
  .ok (Json.serial.text b.toValue)

def view? (b : Bundle α) : Option String := b.view.toOption

end Bundle

end

end ContractRisk
