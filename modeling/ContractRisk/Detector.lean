import ContractRisk.Bundle
import ContractRisk.Fault
import ContractRisk.Scalar
import ContractRisk.Severity

/-!
# Detectors

A detector reads one part of a bundle and answers with a `Signal`, a confidence in the unit interval with
the observations behind it. It may also be unavailable, break or never answer. While it works it may act
on the state `σ` that it shares with the rest of the engine.
-/

namespace ContractRisk

structure Signal (α : Type) where
  confidence : α
  evidence : List Value
  /-- takes the place of the detector's own severity -/
  severity : Option Severity
  metadata : List (String × Value)

inductive Reply (α : Type) where
  | signal (s : Signal α)
  | unavailable (reason : String)
  | failed (f : Fault)
  | silent

structure Detector (α σ : Type) where
  id : String
  name : Value
  description : Value
  category : Category
  severity : Severity
  /-- a signal contributes if its confidence lies above this -/
  threshold : α
  /-- the share of the confidence that counts as risk -/
  riskScale : α
  indicators : List Value
  mitigation : Value
  /-- does the bundle hold the part that the detector reads? -/
  applies : Bundle α → Except Fault Bool
  analyze : Bundle α → σ → Reply α × σ

namespace Detector

variable {α σ : Type} [Scalar α]

def patternId (d : Detector α σ) : String := "ML:" ++ d.id

def exceeds (d : Detector α σ) (s : Signal α) : Bool := d.threshold < s.confidence

/-- what is told about a detector, as data -/
def fields (d : Detector α σ) : List (String × Value) :=
  [("detector_id", .text d.id), ("name", d.name), ("description", d.description),
    ("category", .text d.category.name), ("severity", .text d.severity.name),
    ("threshold", .float (Scalar.toFloat d.threshold)),
    ("risk_scale", .float (Scalar.toFloat d.riskScale)), ("indicators", .list d.indicators),
    ("mitigation", d.mitigation)]

end Detector

variable {α : Type} [Scalar α]

def isUnit (x : α) : Bool := Scalar.ofInt 0 ≤ x && x ≤ Scalar.ofInt 1

/-- the reply of a signal, which must have a confidence in the unit interval -/
def Reply.ofSignal (s : Signal α) : Reply α :=
  if isUnit s.confidence then .signal s
  else .failed (.raised "ValueError"
    ("confidence must be within [0, 1], got " ++ Decimal.text (Scalar.toFloat s.confidence)))

/-- the number rounded to four places, as data -/
def fourPlaces (x : α) : Value := .float (Decimal.roundPlaces 4 (Scalar.toFloat x))

end ContractRisk
