import ContractRisk.CommandLine.Invocation
import ContractRisk.CommandLine.Table
import ContractRisk.Engine
import ContractRisk.Notification

/-!
# Sessions

`Session.run` is the whole command as a function of its command line and its surroundings: files, variables,
the standard input, the network, the clock and the supply of identifiers. A scan that finds something
severe ends with 1, one that has no bundle or no engine with 2.
-/

namespace ContractRisk

/-! ## faults that are told to the user -/

namespace EngineFault

def message : EngineFault → String
  | file path f => f.message path
  | registry f => f.message

/-- is the fault one of a definition of patterns? Others end the session. -/
def isDefinition : EngineFault → Bool
  | file _ f => f.isDefinition
  | registry _ => true

end EngineFault

namespace CommandLine

/-! ## surroundings -/

structure Surroundings (α : Type) where
  files : FileTree
  «variables» : List (String × String)
  /-- the text of the standard input -/
  input : String
  network : Network α
  supply : Supply
  /-- the time that events are given -/
  now : α
  /-- the seconds that a scan takes -/
  elapsed : α
  machine : Machine := .standard

/-- how a session ends: with a code that it gives back, or at once -/
inductive Status where
  | returned (code : Nat)
  | exited (code : Nat)
deriving Repr, DecidableEq

structure Transcript (α : Type) where
  status : Status
  out : String
  err : String
  posts : List (Post α)

/-- what ends a session without a transcript -/
inductive SessionFault where
  | settings (problems : List Problem)
  /-- a path holds a zero character -/
  | noPath
  /-- a file that is needed cannot be read -/
  | file (f : FileFault)
  /-- a file that should be text is none -/
  | noText
  | engine (f : EngineFault)
  | finding (problems : List Problem)
  | report (f : ReportFault)

def SessionFault.ofText : TextFault → SessionFault
  | .noPath => noPath
  | .file f => file f
  | .noText => noText

namespace Transcript

variable {α : Type}

def printed (code : Nat) (out : String) : Transcript α := ⟨.returned code, out, "", []⟩

/-- the code of a session without usable input -/
def invalidCode : Nat := 2

def complained (message : String) : Transcript α :=
  ⟨.returned invalidCode, "", Paint.red.apply ("Error: " ++ message) ++ "\n", []⟩

def ofEnding : Ending → Transcript α
  | .help p => ⟨.exited 0, p.help, "", []⟩
  | .complaint p f => ⟨.exited 2, "", p.complaint f.message, []⟩

end Transcript

namespace Session

variable {α : Type} [Scalar α]

def versionText : String := "threatscan 0.1.0\n"

/-! ## settings and engine -/

def settings (s : Surroundings α) : Except SessionFault (Settings α) :=
  match Settings.fileText s.files with
  | .error f => .error (.ofText f)
  | .ok file =>
    match Settings.ofSources [] s.«variables» file with
    | .error problems => .error (.settings problems)
    | .ok x => .ok x

/-- an engine with the patterns of the catalog, or the complaint about those of the settings -/
def engine (s : Surroundings α) (settings : Settings α) :
    Except SessionFault (Except String (Engine α)) :=
  match (Engine.ofSettings settings none s.files s.supply s.now ⟨Catalog.patterns⟩ s.machine).1 with
  | .ok e => .ok (.ok e)
  | .error f => if f.isDefinition then .ok (.error f.message) else .error (.engine f)

/-- goes on with an engine, or complains -/
def withEngine (s : Surroundings α) (settings : Settings α)
    (f : Engine α → Except SessionFault (Transcript α)) : Except SessionFault (Transcript α) := do
  match ← engine s settings with
  | .error message => .ok (.complained message)
  | .ok e => f e

/-! ## listings -/

def secretMarks : List String := ["webhook_url", "secret", "token"]

/-- the text of a setting; those that hold secrets are only told to be there -/
def settingText (name : String) (v : Value) : String :=
  if secretMarks.any fun mark => Text.contains name mark then
    if v.isVoid then "(not set)" else "****"
  else v.display

def settingLine (f : String × Value) : String :=
  "  " ++ Paint.dim.apply (f.1 ++ ":") ++ "  " ++ settingText f.1 f.2

def configText (settings : Settings α) : String :=
  let fields := settings.fields.mergeSort fun f g => decide (f.1 ≤ g.1)
  Report.lines (["", Paint.bold.apply "threatscan configuration", ""] ++ fields.map settingLine ++ [""])

def statsText (e : Engine α) : String := (Json.listing 2).text (textMap e.stats.fields) ++ "\n"

def patternLine (p : Pattern α) : String :=
  "  " ++ Paint.bold.apply (Text.padRight 10 ' ' p.id) ++
    (Paint.ofSeverity p.severity).apply (Text.padRight 9 ' ' p.severity.name) ++
    Text.padRight 24 ' ' p.category.name ++ Text.padLeft 4 ' ' (Text.intText p.confidence) ++ "  " ++
    p.name.display

/-- the patterns that a request asks for -/
def listed (r : ListRequest) (ps : List (Pattern α)) : List (Pattern α) :=
  ps.filter fun p => r.category.all (· == p.category) && r.severity.all (· == p.severity)

def patternsText (quiet : Bool) (ps : List (Pattern α)) : String :=
  Report.lines (ps.map patternLine ++
    if quiet then [] else ["", "  " ++ Text.natText ps.length ++ " patterns"])

/-! ## scans -/

/-- the settings with what a request puts in their place -/
def overridden (r : ScanRequest) (x : Settings α) : Settings α :=
  let x := match r.timeout with
    | some t => if t != 0.0 then { x with detectorTimeout := Scalar.ofFloat t } else x
    | none => x
  let x := if r.rulesOnly then { x with enableDetectors := false } else x
  match r.patterns with
  | none | some "" => x
  | some path => { x with customPatterns := path }

/-- the text of the bundle, or the complaint that it cannot be read -/
def bundleText (s : Surroundings α) (path : String) : Except SessionFault (Except String String) :=
  if path = "-" then .ok (.ok s.input)
  else match s.files.text path with
    | .ok cs => .ok (.ok (String.ofList cs))
    | .error (.file f) => .ok (.error ("cannot read bundle: " ++ f.message path))
    | .error f => .error (.ofText f)

/-- the code of a scan with these findings shown -/
def codeOf (shown : List (Finding α)) : Nat := if shown.any (·.severity.isSevere) then 1 else 0

/-- an engine whose events wait in a queue, if there are webhooks for them -/
def subscribed (e : Engine α) (webhooks : List (Webhook α)) : Option Nat × Engine α :=
  if webhooks.isEmpty then (none, e)
  else
    let (handle, bus) := e.hub.bus.subscribe none
    (some handle, { e with hub := { e.hub with bus } })

/-- posts the events that wait in a queue: how many were accepted, and the posts -/
def relayed (s : Surroundings α) (e : Engine α) (webhooks : List (Webhook α)) (handle : Nat) :
    Nat × List (Post α) :=
  match e.hub.bus.queue? handle with
  | none => (0, [])
  | some queue =>
    let (sent, _, outbox) := (Relay.mk queue 0).flush s.network webhooks .empty
    (sent, outbox.posts)

def sentLine (sent : Nat) : String :=
  Paint.dim.apply ("  Webhook notifications sent: " ++ Text.natText sent) ++ "\n"

/-- what a scan prints about its report, if it can be printed; `ps` are the patterns of the engine -/
def reportText (r : ScanRequest) (quiet : Bool) (elapsed : α) (ps : List (Pattern α)) (report : Report α)
    (shown : List (Finding α)) : Except ReportFault String :=
  match r.format with
  | .json => (report.listing elapsed shown).mapError .document
  | .table =>
    if report.showsSurrogate ps shown quiet then .error .surrogate
    else .ok (report.table elapsed shown quiet)

def scanWith (s : Surroundings α) (r : ScanRequest) (quiet : Bool) (text : String)
    (settings : Settings α) (e : Engine α) : Except SessionFault (Transcript α) :=
  let webhooks := Webhook.ofSettings settings
  let ps := e.hub.registry.patterns
  let (handle, e) := subscribed e webhooks
  match e.scan (.text text) with
  | (.error (.bundle f), _) => .ok (.complained f.message)
  | (.error (.finding problems), _) => .error (.finding problems)
  | (.ok report, e) =>
    let shown := Finding.select (r.floor.map Severity.name) r.limit report.findings
    match reportText r quiet s.elapsed ps report shown with
    | .error f => .error (.report f)
    | .ok text =>
      let (sent, posts) := (handle.map (relayed s e webhooks)).getD (0, [])
      let tail := if handle.isSome && !quiet && r.format = .table then sentLine sent else ""
      .ok ⟨.returned (codeOf shown), text ++ tail, "", posts⟩

def scan (s : Surroundings α) (r : ScanRequest) (quiet : Bool) (settings : Settings α) :
    Except SessionFault (Transcript α) := do
  match ← bundleText s r.bundle with
  | .error message => .ok (.complained message)
  | .ok text =>
    let settings := overridden r settings
    withEngine s settings (scanWith s r quiet text settings)

/-! ## the session -/

def runCommand (s : Surroundings α) (quiet : Bool) (settings : Settings α) :
    Command → Except SessionFault (Transcript α)
  | .config => .ok (.printed 0 (configText settings))
  | .stats => withEngine s settings fun e => .ok (.printed 0 (statsText e))
  | .patterns r =>
    withEngine s { settings with enableDetectors := false } fun e =>
      let ps := listed r e.hub.registry.patterns
      if ps.any fun p => Text.hasSurrogate p.id || Text.hasSurrogate p.name.display then
        .error (.report .surrogate)
      else .ok (.printed 0 (patternsText quiet ps))
  | .scan r => scan s r quiet settings

/-- what a command line does in its surroundings -/
def run (s : Surroundings α) (line : List String) : Except SessionFault (Transcript α) :=
  match Invocation.read line with
  | .error ending => .ok (.ofEnding ending)
  | .ok i =>
    if i.version then .ok (.printed 0 versionText)
    else do
      let settings ← settings s
      match i.command with
      | none => .ok (.printed 0 Page.main.help)
      | some c => runCommand s i.quiet settings c

end Session

end CommandLine

end ContractRisk
