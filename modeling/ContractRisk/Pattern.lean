import ContractRisk.Condition
import ContractRisk.Severity

/-!
# Patterns

A `Pattern` is a named rule with its condition. It is made from a `Draft` of untyped fields by
`Pattern.define`, which checks identifier, confidence, version and condition and drops indicators that
occur before; every pattern in use has passed it. The identifiers that start with `ML:` or `META` are
kept for the findings of detectors and of escalation.
-/

namespace ContractRisk

/-- a version: a number that is not below one -/
inductive Version where
  | whole (i : Int)
  | flag (b : Bool)
  | float (x : Float)

namespace Version

def ofValue? : Value → Option Version
  | .int i => some (whole i)
  | .bool b => some (flag b)
  | .float x => some (float x)
  | _ => none

def toValue : Version → Value
  | whole i => .int i
  | flag b => .bool b
  | float x => .float x

def isBelowOne : Version → Bool
  | whole i => i < 1
  | flag b => !b
  | float x => x < 1.0

def next : Version → Version
  | whole i => whole (i + 1)
  | flag b => whole (b.toNat + 1)
  | float x => float (x + 1.0)

/-- the version without its fraction -/
def text : Version → String
  | whole i => Text.intText i
  | flag b => Text.natText b.toNat
  | float x => Text.intText ((Binary64.truncate? x).getD 0)

end Version

def detectorMark : String := "ML:"
def escalationMark : String := "META"

def isReserved (id : String) : Bool :=
  [detectorMark, escalationMark].any fun mark => mark.toList.isPrefixOf id.toList

inductive PatternFault where
  | blankId
  | idKind (kind : String)
  | reservedId (id : String)
  | confidenceKind (v : Value)
  | confidenceRange (i : Int)
  | versionKind (kind : String)
  | versionBelowOne
  | unsupportedCondition (v : Value)
  | unknownSeverity (v : Value)
  | unknownCategory (v : Value)
  | notIterable (kind : String)
  | unhashable (kind : String)

namespace PatternFault

def message : PatternFault → String
  | blankId => "pattern id must not be blank"
  | idKind kind => "'" ++ kind ++ "' object has no attribute 'strip'"
  | reservedId id => "pattern id " ++ Text.quoted id ++ " uses a reserved prefix"
  | confidenceKind v => v.told fun t => "confidence must be an integer, got " ++ t
  | confidenceRange i => (Value.int i).told fun t => "confidence must be within [0, 100], got " ++ t
  | versionKind kind => "'<' not supported between instances of '" ++ kind ++ "' and 'int'"
  | versionBelowOne => "version must be >= 1"
  | unsupportedCondition v => v.told fun t => "unsupported condition " ++ t
  | unknownSeverity v => v.told fun t => t ++ " is not a valid Severity"
  | unknownCategory v => v.told fun t => t ++ " is not a valid ThreatCategory"
  | notIterable kind => "'" ++ kind ++ "' object is not iterable"
  | unhashable kind => "unhashable type: '" ++ kind ++ "'"

end PatternFault

/-- the fields of a pattern before they are checked -/
structure Draft (α : Type) where
  id : Value
  name : Value
  description : Value
  severity : Value
  confidence : Value
  category : Value
  /-- a condition, or data that is none -/
  condition : Condition α ⊕ Value
  indicators : Value
  mitigation : Value
  referenceId : Value
  references : Value
  version : Value

/-- the names of the fields of a draft, those that must be given first -/
def Draft.names : List String :=
  ["id", "name", "description", "severity", "confidence", "category", "condition", "indicators",
    "mitigation", "reference_id", "references", "version"]

def Draft.requiredCount : Nat := 7

/-- the draft of named fields; none if a required one is missing or one has another name -/
def Draft.ofFields? {α : Type} (fs : List (String × Value)) (condition : Condition α ⊕ Value) :
    Option (Draft α) :=
  let field (name : String) (standard : Value) := (fs.lookup name).getD standard
  if fs.all (fun f => names.contains f.1) &&
      (names.take requiredCount).all (fun n => (fs.lookup n).isSome) then
    some {
      id := field "id" .null
      name := field "name" .null
      description := field "description" .null
      severity := field "severity" .null
      confidence := field "confidence" .null
      category := field "category" .null
      condition
      indicators := field "indicators" (.list [])
      mitigation := field "mitigation" (.text "")
      referenceId := field "reference_id" .null
      references := field "references" (.list [])
      version := field "version" (.int 1) }
  else none

structure Pattern (α : Type) where
  id : String
  name : Value
  description : Value
  severity : Severity
  confidence : Int
  category : Category
  condition : Condition α
  indicators : List Value
  mitigation : Value
  referenceId : Value
  references : List Value
  version : Version

/-! ## checks -/

def severityOf (v : Value) : Except PatternFault Severity :=
  match v with
  | .text s => (Severity.ofName? s).elim (.error (.unknownSeverity v)) .ok
  | _ => .error (.unknownSeverity v)

def categoryOf (v : Value) : Except PatternFault Category :=
  match v with
  | .text s => (Category.ofName? s).elim (.error (.unknownCategory v)) .ok
  | _ => .error (.unknownCategory v)

def itemsOf (v : Value) : Except PatternFault (List Value) :=
  v.items?.elim (.error (.notIterable v.kind)) .ok

/-- the items of a value, each only once; they must be fit to be keys -/
def distinctItems (v : Value) : Except PatternFault (List Value) :=
  match itemsOf v with
  | .error f => .error f
  | .ok xs =>
    match xs.findSome? Value.keyFault? with
    | some bad => .error (.unhashable bad.kind)
    | none => .ok (Value.distinct xs)

def checkId (v : Value) : Except PatternFault String :=
  if v.isVoid then .error .blankId
  else match v with
    | .text s =>
      if (Text.trim s).isEmpty then .error .blankId
      else if isReserved s then .error (.reservedId s)
      else .ok s
    | _ => .error (.idKind v.kind)

def checkConfidence (v : Value) : Except PatternFault Int :=
  match v with
  | .int i => if 0 ≤ i ∧ i ≤ 100 then .ok i else .error (.confidenceRange i)
  | _ => .error (.confidenceKind v)

def checkVersion (v : Value) : Except PatternFault Version :=
  match Version.ofValue? v with
  | none => .error (.versionKind v.kind)
  | some n => if n.isBelowOne then .error .versionBelowOne else .ok n

def checkCondition {α : Type} : Condition α ⊕ Value → Except PatternFault (Condition α)
  | .inl c => .ok c
  | .inr v => .error (.unsupportedCondition v)

namespace Pattern

variable {α : Type}

/-- the pattern of a draft, or the first fault -/
def define (d : Draft α) : Except PatternFault (Pattern α) := do
  let id ← checkId d.id
  let confidence ← checkConfidence d.confidence
  let version ← checkVersion d.version
  let condition ← checkCondition d.condition
  let severity ← severityOf d.severity
  let category ← categoryOf d.category
  let indicators ← distinctItems d.indicators
  let references ← itemsOf d.references
  return ⟨id, d.name, d.description, severity, confidence, category, condition, indicators,
    d.mitigation, d.referenceId, references, version⟩

/-- the fields of a pattern, to be defined again -/
def toDraft (p : Pattern α) : Draft α where
  id := .text p.id
  name := p.name
  description := p.description
  severity := .text p.severity.name
  confidence := .int p.confidence
  category := .text p.category.name
  condition := .inl p.condition
  indicators := .tuple p.indicators
  mitigation := p.mitigation
  referenceId := p.referenceId
  references := .tuple p.references
  version := p.version.toValue

/-- all fields as data -/
def toValue (p : Pattern α) : Value :=
  textMap [("id", .text p.id), ("name", p.name), ("description", p.description),
    ("severity", .text p.severity.name), ("confidence", .int p.confidence),
    ("category", .text p.category.name), ("indicators", .list p.indicators),
    ("mitigation", p.mitigation), ("reference_id", p.referenceId),
    ("references", .list p.references), ("version", p.version.toValue),
    ("condition", p.condition.toValue)]

end Pattern

end ContractRisk
