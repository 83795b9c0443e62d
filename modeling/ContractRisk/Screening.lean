import ContractRisk.Pattern

/-!
# Screening a bundle

`screen` evaluates the condition of every pattern once, in order. A pattern whose condition breaks is
skipped, the others are still evaluated. All conditions share one view of the bundle.
-/

namespace ContractRisk

variable {α : Type}

structure PatternMatch (α : Type) where
  pattern : Pattern α
  evidence : List String

structure Screening (α : Type) where
  found : List (PatternMatch α)
  skipped : List (Pattern α × Fault)

namespace Screening

def empty : Screening α := ⟨[], []⟩

/-- adds the outcome of one pattern -/
def add (s : Screening α) (p : Pattern α) : Except Fault Evidence → Screening α
  | .ok (some evidence) => { s with found := s.found ++ [⟨p, evidence⟩] }
  | .ok none => s
  | .error f => { s with skipped := s.skipped ++ [(p, f)] }

def skippedIds (s : Screening α) : List String := s.skipped.map fun e => e.1.id

end Screening

variable [Scalar α]

/-- evaluates one more pattern -/
def screenOne (acc : Screening α × View α) (p : Pattern α) : Screening α × View α :=
  let (outcome, view) := p.condition.evidence acc.2
  (acc.1.add p outcome, view)

def screen (patterns : List (Pattern α)) (b : Bundle α) : Screening α :=
  (patterns.foldl screenOne (.empty, View.of b)).1

end ContractRisk
