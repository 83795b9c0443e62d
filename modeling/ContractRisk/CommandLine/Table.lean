import ContractRisk.CommandLine.Paint
import ContractRisk.Json.Document
import ContractRisk.Json.Writer
import ContractRisk.Pattern
import ContractRisk.Report
import ContractRisk.Text.Surrogate

/-!
# Reports on a terminal

Which findings of a report are shown, and the two forms in which they are: a coloured table and JSON. What
patterns say of themselves need not be fit to be shown.
-/

namespace ContractRisk

namespace Severity

/-- the order of the table -/
def descending : List Severity := [critical, high, medium, low]

/-- the position of a severity of this name, in any letter case; 99 if there is none -/
def position (name : String) : Nat :=
  (descending.findIdx? fun s => s.name == Text.lower name).getD 99

end Severity

namespace Finding

variable {α : Type}

/-- the findings at or above a floor that is given by name; all of them for a name that is none -/
def above (floor : String) (fs : List (Finding α)) : List (Finding α) :=
  fs.filter fun f => Severity.position f.severity.name ≤ Severity.position floor

/-- the findings at or above the floor, as many as the limit allows -/
def select (floor : Option String) (limit : Int) (fs : List (Finding α)) : List (Finding α) :=
  let fs := match floor with
    | none | some "" => fs
    | some name => above name fs
  if 0 < limit then fs.take limit.toNat else fs

/-! ## documents -/

variable [Scalar α]

def document (f : Finding α) : Except DocumentFault (Finding α) :=
  (documentFields f.metadata).map fun metadata => { f with metadata }

def merged (f : Finding α) : Finding α := { f with metadata := f.metadata.map fun m => (m.1, m.2.merged) }

/-- can the numbers be written that the pattern of the finding chose? -/
def isWritable (f : Finding α) : Bool := f.source != .rule || f.metadata.all (·.2.isWritable)

end Finding

/-- why a report cannot be shown -/
inductive ReportFault where
  /-- a finding has no document, or the document cannot be written -/
  | document (f : DocumentFault)
  /-- a surrogate cannot be shown -/
  | surrogate
deriving Repr, DecidableEq

def ReportFault.fault : ReportFault → Fault
  | document f => .raised f.kind f.message
  | surrogate => .raised "UnicodeEncodeError" "surrogates not allowed"

namespace Report

open CommandLine

variable {α : Type} [Scalar α]

/-! ## the table -/

/-- how many lines of evidence are shown, and how much of each -/
def evidenceLimit : Nat := 5
def lineLimit : Nat := 200

/-- what a table shows of a pattern as it is written: none of it may be a surrogate -/
def patternTexts (quiet : Bool) (p : Pattern α) : List String :=
  [p.id, p.name.display] ++
    if quiet then []
    else p.mitigation.display :: match p.condition with
      | .structured r => [String.ofList (("Matched /" ++ r.source).toList.take lineLimit)]
      | _ => []

/-- is something shown of a pattern that a terminal cannot show? -/
def showsSurrogate (r : Report α) (ps : List (Pattern α)) (shown : List (Finding α)) (quiet : Bool) : Bool :=
  ps.any fun p =>
    (patternTexts quiet p).any Text.hasSurrogate &&
        (shown.any fun f => f.source == .rule && f.patternId == p.id) ||
      Text.hasSurrogate p.id && !quiet && r.skippedPatterns.contains p.id

def riskPaint (score : α) : Paint :=
  if score < (50.0 : α) then .green else if score < (75.0 : α) then .yellow else .red

def lines (ls : List String) : String := String.join (ls.map fun l => l ++ "\n")

def headLines (r : Report α) (elapsed : α) : List String :=
  ["", Paint.bold.apply "Scan complete" ++ " — " ++ r.address ++ " (" ++ r.network ++ ")",
    "  Risk: " ++
      (riskPaint r.risk.score).apply
        (Scalar.fixed 1 r.risk.score ++ "/100 " ++ r.risk.level.title) ++
      "  |  Findings: " ++ Text.natText r.findings.length ++
      "  |  Duration: " ++ Scalar.fixed 2 elapsed ++ "s",
    ""]

/-- a line about what was left out of account, if anything was -/
def omissionLine (what : String) (ids : List String) : List String :=
  if ids.isEmpty then [] else [Paint.yellow.apply ("  " ++ what ++ ": " ++ ", ".intercalate ids)]

def countText (fs : List (Finding α)) (s : Severity) : Option String :=
  let n := fs.countP fun f => f.severity == s
  if n = 0 then none else some ((Paint.ofSeverity s).apply (Text.natText n ++ " " ++ s.title))

def summaryLines (fs : List (Finding α)) : List String :=
  ["  " ++ " · ".intercalate (Severity.descending.filterMap (countText fs)), ""]

def detailLines (f : Finding α) : List String :=
  let evidence := (f.evidence.take evidenceLimit).map fun l =>
    "       " ++ Paint.dim.apply ("- " ++ String.ofList (l.toList.take lineLimit))
  evidence ++ if f.mitigation.isEmpty then []
    else ["       " ++ Paint.dim.apply ("Mitigation: " ++ f.mitigation)]

def findingLines (quiet : Bool) (number : Nat) (f : Finding α) : List String :=
  let badge := Paint.under [.ofSeverity f.severity, .bold] (" " ++ f.severity.title ++ " ")
  let reference := Paint.dim.apply ("  " ++ f.patternId ++ "  risk " ++ Scalar.fixed 1 f.riskScore)
  let title := "  " ++ Paint.dim.apply (Text.padLeft 3 ' ' (Text.natText number) ++ ".") ++ " " ++
    badge ++ " " ++ Paint.bold.apply f.title ++ reference
  title :: (if quiet then [] else detailLines f) ++ [""]

def tableLines (r : Report α) (elapsed : α) (shown : List (Finding α)) (quiet : Bool) : List String :=
  let head := if quiet then [] else
    r.headLines elapsed ++ omissionLine "Detectors unavailable" r.failedDetectors ++
      omissionLine "Patterns skipped" r.skippedPatterns
  let body := if shown.isEmpty then
      [Paint.green.apply "  ✓ No findings at the requested severity level."]
    else summaryLines shown ++
      (shown.zipIdx 1).flatMap fun (f, number) => findingLines quiet number f
  head ++ body

/-- the findings as a table -/
def table (r : Report α) (elapsed : α) (shown : List (Finding α)) (quiet : Bool) : String :=
  lines (r.tableLines elapsed shown quiet)

/-! ## JSON -/

/-- the report with the findings that are shown, as indented JSON; all findings must have a document -/
def listing (r : Report α) (elapsed : α) (shown : List (Finding α)) : Except DocumentFault String := do
  let _ ← r.findings.mapM Finding.document
  let documents ← shown.mapM Finding.document
  let findings := documents.map Finding.merged
  if findings.all Finding.isWritable then
    let fields := { r with findings }.fields ++ [("duration_seconds", scalarValue elapsed)]
    .ok ((Json.listing 2).text (textMap fields) ++ "\n")
  else .error .tooLong

end Report

end ContractRisk
