import ContractRisk.Pattern

/-!
# Patterns as data

A pattern can be given as a map of data: `Pattern.ofEntry` reads one. Its condition is a text to look for
or a rule; checks cannot be given. A refused entry is reported with its identifier and its source. Three
kinds of entries are not refused but break the reader: one whose identifier cannot be written, one with a
number that is out of all bounds, and one with something that is nested too deep for the machine
(`EntryFault.isDefinition`).
-/

namespace ContractRisk

inductive EntryCause where
  /-- a number in a text has too many digits -/
  | unwritable
  | noCondition
  | condition (f : ConditionFault)
  | unknownFlag (v : Value)
  | notIterable (kind : String)
  | notWhole (v : Value)
  | tooLong (digits : Nat)
  | notANumber
  | wholeKind (kind : String)
  | pattern (f : PatternFault)
  /-- a repetition of a rule or a version beyond all bounds -/
  | tooLarge
  /-- a rule, or a value that a text is made of, that is nested too deep -/
  | tooDeep

def EntryCause.message : EntryCause → String
  | unwritable => Value.unwritable
  | noCondition => "match must set exactly one of 'contains' or 'regex'"
  | condition f => f.message
  | unknownFlag v => "unknown regex flag " ++ v.literal
  | notIterable kind => "'" ++ kind ++ "' object is not iterable"
  | notWhole v => Text.noNumeral 10 v.literal
  | tooLong digits => Text.tooLongToRead digits
  | notANumber => "cannot convert float NaN to integer"
  | wholeKind kind =>
    "int() argument must be a string, a bytes-like object or a real number, not '" ++ kind ++ "'"
  | pattern f => f.message
  | tooLarge => "too large"
  | tooDeep => Text.tooDeepText

/-- is the cause one of the definition of a pattern? -/
def EntryCause.isDefinition : EntryCause → Bool
  | tooLarge | tooDeep => false
  | _ => true

/-- the value that the message of a fault shows, with its key in an entry -/
def PatternFault.shown? : PatternFault → Option (String × Value)
  | confidenceKind v => some ("confidence", v)
  | unknownSeverity v => some ("severity", v)
  | unknownCategory v => some ("category", v)
  | _ => none

namespace EntryCause

/-- why an entry has no condition -/
def ofCondition : ConditionFault → EntryCause
  | .rule _ .repetitionTooLarge => tooLarge
  | .rule _ .tooDeep => tooDeep
  | f => condition f

/-- why the fields of an entry make no pattern, if there is room for the message that says so -/
def ofPattern (m : Machine) (f : PatternFault) : EntryCause :=
  if f.shown?.all fun (key, v) => m.hasRoom key v then pattern f else tooDeep

end EntryCause

inductive EntryFault where
  | notMap
  /-- the identifier cannot be written, not even in a message -/
  | noIdText (cause : EntryCause)
  | missing (id : Value) (keys : List String)
  | invalid (id : Value) (cause : EntryCause)

def EntryFault.message (source : String) : EntryFault → String
  | notMap => "Invalid pattern entry in " ++ source ++ ": expected mapping"
  | noIdText cause => cause.message
  | missing id keys =>
    "Pattern " ++ id.display ++ " in " ++ source ++ " is missing: " ++ ", ".intercalate keys
  | invalid id cause =>
    "Pattern " ++ id.display ++ " in " ++ source ++ " is invalid: " ++ cause.message

/-- is the fault one of the definition of a pattern? Others break the reader. -/
def EntryFault.isDefinition : EntryFault → Bool
  | noIdText _ => false
  | invalid _ cause => cause.isDefinition
  | notMap | missing .. => true

namespace Pattern

def requiredKeys : List String :=
  ["id", "name", "description", "severity", "confidence", "category", "match"]

/-- refuses a value under a key that no text can be made of -/
def checkWritable (m : Machine) (key : String) (v : Value) : Except EntryCause Unit :=
  if !m.hasRoom key v then .error .tooDeep
  else if v.isWritable then .ok ()
  else .error .unwritable

/-! ## conditions -/

def flagNames : List (String × Nat) := [("ignorecase", 2), ("multiline", 8), ("dotall", 16)]

def flagBit? (v : Value) : Option Nat := flagNames.lookup (Text.lower v.display)

/-- the bits of named flags -/
def flagBits (m : Machine) (acc : Nat) : List Value → Except EntryCause Nat
  | [] => .ok acc
  | v :: vs => do
    checkWritable m "flags" v
    match flagBit? v with
    | some bit => flagBits m (acc ||| bit) vs
    | none => .error (.unknownFlag v)

def entryItems (v : Value) : Except EntryCause (List Value) :=
  v.items?.elim (.error (.notIterable v.kind)) .ok

variable {α : Type}

def entryCondition (m : Machine) (v : Value) : Except EntryCause (Condition α) :=
  match v.field? "contains", v.field? "regex" with
  | some text, none => do
    checkWritable m "contains" text
    (Condition.ofText text.display).mapError .condition
  | none, some rule => do
    let names ← entryItems ((v.field? "flags").getD (.list []))
    let flags ← flagBits m 0 names
    checkWritable m "regex" rule
    (Condition.ofRule rule.display flags m).mapError .ofCondition
  | _, _ => .error .noCondition

/-! ## entries -/

def asciiChars (bs : List UInt8) : List Char := bs.map fun b => Char.ofNat b.toNat

/-- the whole number that the characters of a value stand for -/
def wholeIn (v : Value) (cs : List Char) : Except EntryCause Int :=
  match Text.integer? cs with
  | none => .error (.notWhole v)
  | some i =>
    let digits := cs.countP Text.isDigit
    if Text.digitLimit < digits then .error (.tooLong digits) else .ok i

/-- a whole number out of a number or a text -/
def wholeOf (v : Value) : Except EntryCause Int :=
  match v with
  | .int i => .ok i
  | .bool b => .ok b.toNat
  | .float x =>
    match Binary64.truncate? x with
    | some i => .ok i
    | none => .error (if x.isNaN then .notANumber else .tooLarge)
  | .text s => wholeIn v s.toList
  | .bytes bs => wholeIn v (asciiChars bs)
  | _ => .error (.wholeKind v.kind)

/-- a list field, empty if it is absent or void -/
def entryList (es : List (Value × Value)) (key : String) : Except EntryCause (List Value) :=
  match Value.entry? key es with
  | none => .ok []
  | some v => if v.isVoid then .ok [] else entryItems v

def entryField (es : List (Value × Value)) (key : String) : Value := (Value.entry? key es).getD .null

def entryText (es : List (Value × Value)) (key : String) : Value :=
  .text (entryField es key).display

def mitigationField (es : List (Value × Value)) : Value :=
  (Value.entry? "mitigation" es).getD (.text "")

/-- the pattern of an entry that has all required keys and an identifier that can be written -/
def ofFields (m : Machine) (es : List (Value × Value)) : Except EntryCause (Pattern α) := do
  checkWritable m "name" (entryField es "name")
  checkWritable m "description" (entryField es "description")
  let condition ← entryCondition m (entryField es "match")
  let indicators ← entryList es "indicators"
  checkWritable m "mitigation" (mitigationField es)
  let references ← entryList es "references"
  let version ← wholeOf ((Value.entry? "version" es).getD (.int 1))
  (define {
    id := entryText es "id"
    name := entryText es "name"
    description := entryText es "description"
    severity := entryField es "severity"
    confidence := entryField es "confidence"
    category := entryField es "category"
    condition := .inl condition
    indicators := .tuple indicators
    mitigation := .text (mitigationField es).display
    referenceId := entryField es "reference_id"
    references := .tuple references
    version := .int version }).mapError (.ofPattern m)

def ofEntry (v : Value) (m : Machine := .standard) : Except EntryFault (Pattern α) :=
  match v with
  | .map es =>
    let missing := requiredKeys.filter fun key => (Value.entry? key es).isNone
    let id := (Value.entry? "id" es).getD (.text "?")
    match checkWritable m "id" id with
    | .error cause => .error (.noIdText cause)
    | .ok () =>
      if missing.isEmpty then (ofFields m es).mapError (.invalid id)
      else .error (.missing id missing)
  | _ => .error .notMap

end Pattern

end ContractRisk
