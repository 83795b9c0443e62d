import ContractRisk.Severity

/-!
# Colours on a terminal

Text between a control sequence that sets its look and the one that ends it.
-/

namespace ContractRisk.CommandLine

inductive Paint where
  | bold
  | dim
  | red
  | orange
  | yellow
  | green
  | cyan
deriving Repr, DecidableEq

namespace Paint

/-- the control sequence that starts the look -/
def start : Paint → String
  | bold => "\x1b[1m"
  | dim => "\x1b[2m"
  | red => "\x1b[91m"
  | orange => "\x1b[38;5;208m"
  | yellow => "\x1b[93m"
  | green => "\x1b[92m"
  | cyan => "\x1b[96m"

def reset : String := "\x1b[0m"

/-- text under several looks -/
def under (ps : List Paint) (text : String) : String := String.join (ps.map start) ++ text ++ reset

def apply (p : Paint) (text : String) : String := under [p] text

def ofSeverity : Severity → Paint
  | .critical => red
  | .high => orange
  | .medium => yellow
  | .low => cyan

end Paint

end ContractRisk.CommandLine
