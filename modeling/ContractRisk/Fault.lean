import ContractRisk.Json.Document

/-!
# Faults

What a condition or a detector gives instead of an answer when it breaks. A fault stays with the one
that broke; it is shown in logs only.
-/

namespace ContractRisk

inductive Fault where
  /-- a fault of some kind, with what it says -/
  | raised (kind detail : String)
  /-- the bundle holds data that cannot be serialised -/
  | noText (f : DocumentFault)
deriving Repr, DecidableEq

namespace Fault

def kind : Fault → String
  | raised kind _ => kind
  | noText _ => "PydanticSerializationError"

def detail : Fault → String
  | raised "KeyError" detail => Text.quoted detail
  | raised _ detail => detail
  | noText f => "Error serializing to JSON: " ++ f.detail

/-- kind and detail in one text -/
def literal : Fault → String
  | raised kind detail => kind ++ "(" ++ Text.quoted detail ++ ")"
  | noText f => (noText f).kind ++ "(" ++ (noText f).detail ++ ")"

/-- something to visit was expected -/
def notIterable (kind : String) : Fault :=
  raised "TypeError" ("'" ++ kind ++ "' object is not iterable")

end Fault

end ContractRisk
