import ContractRisk.Diary
import ContractRisk.Path
import ContractRisk.Pattern.Entry
import ContractRisk.Yaml.Reading

/-!
# Pattern files

A pattern file is a YAML document with a list of entries under `patterns`. `Pattern.load` reads all of them
or gives the first fault; an empty document has no patterns. Faults that are none of the definition of the
patterns (`PatternFileFault.isDefinition`) are not reported as such.
-/

namespace ContractRisk

inductive PatternFileFault where
  | notFound
  /-- there may be a file, but it cannot be reached or read -/
  | unreadable (f : FileFault)
  /-- the bytes are no text -/
  | notText
  | document (f : Yaml.Fault)
  | noList
  | entry (f : EntryFault)

/-- the text of a fault of the file at a path -/
def PatternFileFault.message (path : String) : PatternFileFault → String
  | notFound => "Pattern file not found: " ++ Path.shown path
  | unreadable f => f.message path
  | notText => "not a text"
  | document .malformed => "Invalid YAML in " ++ Path.shown path
  | document f => f.message
  | noList => "Invalid pattern file: expected a 'patterns' list at " ++ Path.shown path
  | entry f => f.message (Path.shown path)

/-- is the fault one of the definition of the patterns? Others break the reader. -/
def PatternFileFault.isDefinition : PatternFileFault → Bool
  | notFound | noList | document .malformed => true
  | entry f => f.isDefinition
  | unreadable _ | notText | document _ => false

namespace Pattern

variable {α : Type}

/-- the entries of a document -/
def entriesOf (v : Value) : Except PatternFileFault (List Value) :=
  match v with
  | .null => .ok []
  | .map es =>
    match Value.entry? "patterns" es with
    | none => .ok []
    | some (.list xs) => .ok xs
    | some _ => .error .noList
  | _ => .error .noList

/-- the patterns in the text of a file; `early` is the fault, if there is one, in front of a character that
no document may hold -/
def ofFileText (m : Machine) (early : Option Yaml.Fault) (cs : List Char) :
    Except PatternFileFault (List (Pattern α)) := do
  let v ← (Yaml.read cs (m.collections cs) early).mapError .document
  let entries ← entriesOf v
  entries.mapM fun e => (ofEntry e m).mapError .entry

/-- the patterns of the file at a path, in order -/
def load (files : FileTree) (path : String) (m : Machine := .standard) :
    Except PatternFileFault (List (Pattern α)) :=
  let early := (files (Path.shown path)).toOption.bind m.ahead
  match files.text (Path.shown path) with
  | .ok cs => ofFileText m early cs
  | .error .noText => .error (early.elim .notText .document)
  | .error .noPath => .error .notFound
  | .error (.file f) => .error (if f.isAbsence then .notFound else .unreadable f)

def loadNote (count : Nat) (path : String) : Note where
  topic := .patternFile
  weight := .info
  message := "Loaded " ++ Text.natText count ++ " custom patterns from " ++ Path.shown path
  context := .none

end Pattern

end ContractRisk
