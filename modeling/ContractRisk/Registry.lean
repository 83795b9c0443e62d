import ContractRisk.Check
import ContractRisk.Diary
import ContractRisk.Pattern

/-!
# The registry

Patterns under their identifiers, in the order of registration. A pattern is added once and can then be
updated; nothing is removed. An update checks the merged fields as a new definition and raises the
version unless it is given.
-/

namespace ContractRisk

variable {α : Type}

structure Registry (α : Type) where
  patterns : List (Pattern α)

inductive RegistryFault where
  | duplicate (id : String)
  | notFound (id : String)
  | idChange
  | unknownFields (names : List String)
  | pattern (f : PatternFault)

def RegistryFault.message : RegistryFault → String
  | duplicate id => "Pattern " ++ id ++ " is already registered"
  | notFound id => "Pattern " ++ id ++ " does not exist"
  | idChange => "pattern id cannot be changed"
  | unknownFields names => "unknown pattern fields: " ++ ", ".intercalate names
  | pattern f => f.message

/-- fields of a pattern that are to change, by name -/
structure Amendment (α : Type) where
  fields : List (String × Value)
  condition : Option (Condition α ⊕ Value)

namespace Amendment

/-- the names of the fields, the condition among them -/
def names (a : Amendment α) : List String :=
  a.fields.map Prod.fst ++ if a.condition.isSome then ["condition"] else []

/-- the fields that may change, apart from the condition -/
def known : List String :=
  ["name", "description", "severity", "confidence", "category", "indicators", "mitigation",
    "reference_id", "references", "version"]

/-- names in the order of their characters -/
def sorted (names : List String) : List String := names.mergeSort fun a b => decide (a ≤ b)

def unknown (a : Amendment α) : List String :=
  sorted ((a.fields.map Prod.fst).filter fun name => name != "id" && !known.contains name)

/-- does the amendment give another identifier? -/
def changesId (a : Amendment α) (id : String) : Bool :=
  match Check.find? "id" a.fields with
  | some (.text s) => s != id
  | some _ => true
  | none => false

/-- the draft that the amendment makes of a pattern -/
def apply (a : Amendment α) (p : Pattern α) : Draft α :=
  let d := p.toDraft
  let given (name : String) (old : Value) := (Check.find? name a.fields).getD old
  { id := d.id
    name := given "name" d.name
    description := given "description" d.description
    severity := given "severity" d.severity
    confidence := given "confidence" d.confidence
    category := given "category" d.category
    condition := a.condition.getD d.condition
    indicators := given "indicators" d.indicators
    mitigation := given "mitigation" d.mitigation
    referenceId := given "reference_id" d.referenceId
    references := given "references" d.references
    version := given "version" p.version.next.toValue }

/-- the names of the fields that an update touches, the version always among them -/
def touched (a : Amendment α) : List String :=
  let names := a.names.filter (· != "id")
  sorted (if names.contains "version" then names else names ++ ["version"])

end Amendment

namespace Registry

def empty : Registry α := ⟨[]⟩

def ids (r : Registry α) : List String := r.patterns.map (·.id)

def size (r : Registry α) : Nat := r.patterns.length

def get? (r : Registry α) (id : String) : Option (Pattern α) := r.patterns.find? fun p => p.id == id

def contains (r : Registry α) (id : String) : Bool := (r.get? id).isSome

def register (r : Registry α) (p : Pattern α) : Except RegistryFault (Registry α) :=
  if r.contains p.id then .error (.duplicate p.id) else .ok ⟨r.patterns ++ [p]⟩

/-- registers patterns in order up to the first one that is refused: why it is refused, if one is, and
the registry with those before it -/
def registerEach (r : Registry α) : List (Pattern α) → Option RegistryFault × Registry α
  | [] => (none, r)
  | p :: ps =>
    match r.register p with
    | .ok r => r.registerEach ps
    | .error f => (some f, r)

def registerAll (r : Registry α) (ps : List (Pattern α)) : Except RegistryFault (Registry α) :=
  match r.registerEach ps with
  | (none, r) => .ok r
  | (some f, _) => .error f

def ofList (ps : List (Pattern α)) : Except RegistryFault (Registry α) := empty.registerAll ps

/-- the pattern that an update makes -/
def amended (r : Registry α) (id : String) (a : Amendment α) : Except RegistryFault (Pattern α) :=
  match r.get? id with
  | none => .error (.notFound id)
  | some p =>
    if a.changesId id then .error .idChange
    else if !a.unknown.isEmpty then .error (.unknownFields a.unknown)
    else (Pattern.define (a.apply p)).mapError .pattern

/-- puts a pattern into the place of the one with its identifier -/
def replace (r : Registry α) (p : Pattern α) : Registry α :=
  ⟨r.patterns.map fun q => if q.id = p.id then p else q⟩

/-- merges fields into a pattern and gives the new one -/
def update (r : Registry α) (id : String) (a : Amendment α) :
    Except RegistryFault (Pattern α × Registry α) :=
  match r.amended id a with
  | .ok p => .ok (p, r.replace p)
  | .error f => .error f

def updateNote (p : Pattern α) (a : Amendment α) : Note where
  topic := .registry
  weight := .info
  message := "Updated pattern " ++ p.id ++ " to v" ++ p.version.text ++ " (" ++
    ", ".intercalate a.touched ++ ")"
  context := .ofPattern p.id

/-! ## listings -/

def ofCategory (r : Registry α) (c : Category) : List (Pattern α) :=
  r.patterns.filter fun p => p.category == c

def ofSeverity (r : Registry α) (s : Severity) : List (Pattern α) :=
  r.patterns.filter fun p => p.severity == s

/-- how many patterns each category has, in the order in which the categories first occur -/
def countByCategory (r : Registry α) : List (Category × Nat) :=
  (r.patterns.map (·.category)).eraseDups.map fun c => (c, (r.ofCategory c).length)

/-- how many patterns each severity has, in the order in which the severities first occur -/
def countBySeverity (r : Registry α) : List (Severity × Nat) :=
  (r.patterns.map (·.severity)).eraseDups.map fun s => (s, (r.ofSeverity s).length)

end Registry

end ContractRisk
