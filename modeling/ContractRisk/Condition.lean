import ContractRisk.Bundle.View
import ContractRisk.Fault
import ContractRisk.Heuristic
import ContractRisk.Machine
import ContractRisk.Regex.Matching
import ContractRisk.Regex.Reading

/-!
# Conditions

A condition looks for a text in the serialised bundle, for a match of an expression in it, or asks a
check about the bundle itself. `Condition.evidence` gives the lines of evidence, or none if the condition
does not hold. The serialised text is made on demand and kept in a `View`; which view is used makes no
difference to the evidence.
-/

namespace ContractRisk

/-- the answer of a check: whether it holds, or the lines that speak for it -/
inductive Verdict where
  | holds (b : Bool)
  | lines (ls : List String)

/-- the answer that data stands for: a truth value, or the texts of what it holds -/
def Verdict.ofValue (v : Value) : Except Fault Verdict :=
  match v with
  | .bool b => .ok (.holds b)
  | _ =>
    match v.items? with
    | some xs => .ok (.lines (xs.map Value.display))
    | none => .error (.notIterable v.kind)

structure Rule where
  source : String
  flags : Nat
  node : Regex.Node

/-- reads a rule; the flags are given as bits -/
def Rule.read (source : String) (flags : Nat) (m : Machine) : Except Regex.Refusal Rule :=
  (Regex.read source flags (m.groups source flags) m.characters).map fun node => ⟨source, flags, node⟩

structure Predicate (α : Type) where
  name : String
  check : Bundle α → Except Fault Verdict

/-- the check that a heuristic makes -/
def Predicate.ofHeuristic {α : Type} (h : String × (Bundle α → List String)) : Predicate α :=
  ⟨h.1, fun b => (Heuristic.answer h b).map .lines⟩

inductive Condition (α : Type) where
  | contains (text : String)
  | structured (rule : Rule)
  | predicate (p : Predicate α)

/-- why there is no condition -/
inductive ConditionFault where
  | emptyText
  | rule (source : String) (refusal : Regex.Refusal)
deriving Repr, DecidableEq

def ConditionFault.message : ConditionFault → String
  | emptyText => "Contains condition needs non-empty text"
  | rule source refusal => refusal.message source

namespace Condition

variable {α : Type}

def ofText (text : String) : Except ConditionFault (Condition α) :=
  if text.isEmpty then .error .emptyText else .ok (contains text)

def ofRule (source : String) (flags : Nat) (m : Machine := .standard) :
    Except ConditionFault (Condition α) :=
  match Rule.read source flags m with
  | .ok r => .ok (structured r)
  | .error e => .error (.rule source e)

/-- the kind of condition with what it looks for, as data -/
def toValue : Condition α → Value
  | contains text => textMap [("kind", .text "contains"), ("text", .text text)]
  | structured r =>
    textMap [("kind", .text "structured"), ("rule", .text r.source), ("flags", .int r.flags)]
  | predicate p => textMap [("kind", .text "predicate"), ("name", .text p.name)]

end Condition

/-! ## views -/

/-- a bundle with the forms of its text that have been made so far -/
structure View (α : Type) where
  bundle : Bundle α
  text? : Option String
  lowered? : Option String

namespace View

variable {α : Type} [Scalar α]

def of (b : Bundle α) : View α := ⟨b, none, none⟩

def text (v : View α) : Except Fault String × View α :=
  match v.text?, v.bundle.view with
  | some t, _ => (.ok t, v)
  | none, .ok t => (.ok t, { v with text? := some t })
  | none, .error f => (.error (.noText f), v)

/-- the text in lower case -/
def lowered (v : View α) : Except Fault String × View α :=
  match v.lowered? with
  | some t => (.ok t, v)
  | none =>
    match v.text with
    | (.ok t, v) => let low := Text.lower t; (.ok low, { v with lowered? := some low })
    | (.error f, v) => (.error f, v)

end View

/-! ## evidence -/

/-- lines of evidence, none if the condition does not hold -/
abbrev Evidence := Option (List String)

/-- a match is shown up to this length -/
def shownLength : Nat := 80

def Rule.evidence (r : Rule) (text : String) : Evidence :=
  (r.node.search? text).map fun found =>
    ["Matched /" ++ r.source ++ "/: " ++ Text.quoted (String.ofList (found.take shownLength))]

def Predicate.evidence {α : Type} (p : Predicate α) (b : Bundle α) : Except Fault Evidence :=
  match p.check b with
  | .error f => .error f
  | .ok (.holds true) => .ok (some ["Predicate '" ++ p.name ++ "' matched"])
  | .ok (.holds false) => .ok none
  | .ok (.lines []) => .ok none
  | .ok (.lines ls) => .ok (some ls)

variable {α : Type} [Scalar α]

/-- the evidence for a condition, and the view with what has been made for it -/
def Condition.evidence (c : Condition α) (v : View α) : Except Fault Evidence × View α :=
  match c with
  | .contains text =>
    let (low, v) := v.lowered
    (low.map fun low =>
      if Text.contains low (Text.lower text) then some ["Bundle contains '" ++ text ++ "'"] else none, v)
  | .structured rule =>
    let (text, v) := v.text
    (text.map rule.evidence, v)
  | .predicate p => (p.evidence v.bundle, v)

/-- the evidence for a condition in a bundle -/
def Condition.evidenceIn (c : Condition α) (b : Bundle α) : Except Fault Evidence :=
  (c.evidence (View.of b)).1

end ContractRisk
