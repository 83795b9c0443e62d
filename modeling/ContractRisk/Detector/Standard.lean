import ContractRisk.Detector.Bytecode
import ContractRisk.Detector.Social
import ContractRisk.Detector.Trading

/-!
# The standard detectors

The detectors of an engine for which none are given, in the order of their identifiers.
-/

namespace ContractRisk.Detector

variable {α σ : Type} [Scalar α]

def standard : List (Detector α σ) := [Bytecode.detector [], Social.detector, Trading.detector]

def standard? (id : String) : Option (Detector α σ) := standard.find? fun d => d.id == id

end ContractRisk.Detector
