import ContractRisk.CommandLine.Page
import ContractRisk.CommandLine.Words
import ContractRisk.Decimal.Literal
import ContractRisk.Severity

/-!
# Invocations

What a command line asks for: the command with its arguments, or a page of help, or a complaint. Acts are
carried out in order, so a request for help comes before all complaints about what stands behind it.
-/

namespace ContractRisk.CommandLine

inductive Format where
  | table
  | json
deriving Repr, DecidableEq

namespace Format

def name : Format → String
  | table => "table"
  | json => "json"

def all : List Format := [table, json]

def ofName? (s : String) : Option Format := all.find? fun f => f.name == s

end Format

structure ScanRequest where
  /-- the path of the bundle, a dash for the standard input -/
  bundle : String
  /-- the least severity that is shown -/
  floor : Option Severity
  format : Format
  /-- how many findings are shown; all of them if this is not positive -/
  limit : Int
  timeout : Option Float
  rulesOnly : Bool
  /-- the path of a file of further patterns -/
  patterns : Option String

structure ListRequest where
  category : Option Category
  severity : Option Severity

inductive Command where
  | scan (r : ScanRequest)
  | patterns (r : ListRequest)
  | stats
  | config

structure Invocation where
  version : Bool
  quiet : Bool
  command : Option Command

/-- why there is nothing to carry out -/
inductive Ending where
  | help (p : Page)
  | complaint (p : Page) (f : ArgumentFault)

/-- carries out the acts of a command line, and gives the words left over -/
def Grammar.run {κ σ : Type} (g : Grammar κ) (p : Page) (step : σ → Act κ → Except Ending σ)
    (start : σ) (line : List String) : Except Ending (σ × List String) := do
  let r := g.read line
  let s ← r.acts.foldlM step start
  match r.fault with
  | some f => .error (.complaint p f)
  | none => .ok (s, r.extras)

/-! ## values -/

/-- a value out of a closed vocabulary -/
def choice {κ β : Type} (p : Page) (s : Switch κ) (names : List String) (ofName? : String → Option β)
    (value : Option String) : Except Ending β :=
  let text := value.getD ""
  match ofName? text with
  | some x => .ok x
  | none => .error (.complaint p (.badChoice s.label text names))

/-- a numeric value -/
def numeral {κ β : Type} (p : Page) (s : Switch κ) (kind : String) (read : String → Option β)
    (value : Option String) : Except Ending β :=
  let text := value.getD ""
  match read text with
  | some x => .ok x
  | none => .error (.complaint p (.badNumber s.label kind text))

def severityChoice {κ : Type} (p : Page) (s : Switch κ) : Option String → Except Ending Severity :=
  choice p s (Severity.all.map Severity.name) Severity.ofName?

def categoryChoice {κ : Type} (p : Page) (s : Switch κ) : Option String → Except Ending Category :=
  choice p s (Category.all.map Category.name) Category.ofName?

/-! ## scan -/

inductive ScanKey where
  | help
  | severity
  | format
  | limit
  | timeout
  | rulesOnly
  | patterns
deriving Repr, DecidableEq

def scanGrammar : Grammar ScanKey where
  switches := [⟨.help, ["-h", "--help"], false⟩, ⟨.severity, ["--severity"], true⟩,
    ⟨.format, ["--format", "-f"], true⟩, ⟨.limit, ["--max-findings"], true⟩,
    ⟨.timeout, ["--timeout"], true⟩, ⟨.rulesOnly, ["--no-detectors"], false⟩,
    ⟨.patterns, ["--patterns"], true⟩]
  operand := .single

/-- the path of the bundle if it is known, and the rest of the request -/
abbrev ScanDraft := Option String × ScanRequest

def scanStep (d : ScanDraft) : Act ScanKey → Except Ending ScanDraft
  | .operand words => .ok (words.head?, d.2)
  | .switch s value =>
    match s.key with
    | .help => .error (.help .scan)
    | .severity => (severityChoice .scan s value).map fun x => (d.1, { d.2 with floor := some x })
    | .format =>
      (choice .scan s (Format.all.map Format.name) Format.ofName? value).map fun x =>
        (d.1, { d.2 with format := x })
    | .limit =>
      (numeral .scan s "int" (fun t => Text.shortInteger? t.toList) value).map fun x =>
        (d.1, { d.2 with limit := x })
    | .timeout =>
      (numeral .scan s "float" Decimal.anyScript? value).map fun x =>
        (d.1, { d.2 with timeout := some x })
    | .rulesOnly => .ok (d.1, { d.2 with rulesOnly := true })
    | .patterns => .ok (d.1, { d.2 with patterns := value })

def readScan (line : List String) : Except Ending (Command × List String) := do
  let start : ScanDraft := (none, ⟨"", none, .table, 0, none, false, none⟩)
  let ((bundle, r), extras) ← scanGrammar.run .scan scanStep start line
  match bundle with
  | some path => .ok (.scan { r with bundle := path }, extras)
  | none => .error (.complaint .scan (.missing "bundle"))

/-! ## patterns -/

inductive ListKey where
  | help
  | category
  | severity
deriving Repr, DecidableEq

def listGrammar : Grammar ListKey where
  switches := [⟨.help, ["-h", "--help"], false⟩, ⟨.category, ["--category"], true⟩,
    ⟨.severity, ["--severity"], true⟩]
  operand := .none

def listStep (r : ListRequest) : Act ListKey → Except Ending ListRequest
  | .operand _ => .ok r
  | .switch s value =>
    match s.key with
    | .help => .error (.help .patterns)
    | .category => (categoryChoice .patterns s value).map fun x => { r with category := some x }
    | .severity => (severityChoice .patterns s value).map fun x => { r with severity := some x }

def readList (line : List String) : Except Ending (Command × List String) :=
  (listGrammar.run .patterns listStep ⟨none, none⟩ line).map fun (r, extras) => (.patterns r, extras)

/-! ## commands without arguments -/

def bareGrammar : Grammar Unit := ⟨[⟨(), ["-h", "--help"], false⟩], .none⟩

def readBare (name : String) (c : Command) (line : List String) :
    Except Ending (Command × List String) :=
  bareGrammar.run (.bare name) (fun _ _ => .error (.help (.bare name))) c line

/-! ## the whole command line -/

inductive MainKey where
  | help
  | version
  | quiet
deriving Repr, DecidableEq

def mainGrammar : Grammar MainKey where
  switches := [⟨.help, ["-h", "--help"], false⟩, ⟨.version, ["--version"], false⟩,
    ⟨.quiet, ["--quiet", "-q"], false⟩]
  operand := .command

def commandNames : List String := ["scan", "patterns", "stats", "config"]

def readCommand (name : String) (line : List String) : Except Ending (Command × List String) :=
  match name with
  | "scan" => readScan line
  | "patterns" => readList line
  | "stats" => readBare name .stats line
  | "config" => readBare name .config line
  | _ => .error (.complaint .main (.badChoice "command" name commandNames))

/-- an invocation, and the words that its command left over -/
abbrev MainDraft := Invocation × List String

def mainStep (d : MainDraft) : Act MainKey → Except Ending MainDraft
  | .operand words =>
    (readCommand (words.headD "") words.tail).map fun (c, extras) =>
      ({ d.1 with command := some c }, extras)
  | .switch s _ =>
    match s.key with
    | .help => .error (.help .main)
    | .version => .ok ({ d.1 with version := true }, d.2)
    | .quiet => .ok ({ d.1 with quiet := true }, d.2)

namespace Invocation

/-- reads a command line; no word may be left over -/
def read (line : List String) : Except Ending Invocation := do
  let ((i, inner), outer) ← mainGrammar.run .main mainStep (⟨false, false, none⟩, []) line
  if (outer ++ inner).isEmpty then .ok i
  else .error (.complaint .main (.unrecognized (outer ++ inner)))

end Invocation

end ContractRisk.CommandLine
