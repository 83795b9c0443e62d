import ContractRisk.Bus
import ContractRisk.Detector.Standard
import ContractRisk.Finding.Synthesis
import ContractRisk.Pattern.Catalog
import ContractRisk.Pattern.File
import ContractRisk.Registry
import ContractRisk.Report
import ContractRisk.Settings

/-!
# The engine

A scan evaluates all patterns of the registry, asks the detectors, makes the findings in that order,
publishes one event for each and ranks them. What scans share is in a `Hub`: the registry, the event bus,
the supply of identifiers and the diary.
-/

namespace ContractRisk

variable {α : Type}

/-! ## what scans share -/

/-- identifiers by number, and how many of them are used -/
structure Supply where
  label : Nat → String
  used : Nat

namespace Supply

def next (s : Supply) : String := s.label (s.used + 1)

def advance (s : Supply) : Supply := { s with used := s.used + 1 }

end Supply

structure Hub (α : Type) where
  registry : Registry α
  bus : Bus α
  supply : Supply
  /-- the time that events are given -/
  now : α
  diary : Diary

namespace Hub

def write (h : Hub α) (notes : Diary) : Hub α := { h with diary := h.diary ++ notes }

def takeId (h : Hub α) : String × Hub α := (h.supply.next, { h with supply := h.supply.advance })

def publish (h : Hub α) (e : Event α) : Hub α :=
  { h with bus := h.bus.publish e, diary := h.diary ++ h.bus.drops e }

end Hub

structure Engine (α : Type) where
  /-- how many seconds a detector may take -/
  timeout : α
  detectors : List (Detector α (Hub α))
  hub : Hub α

/-- what an engine can detect -/
structure Stats where
  patterns : Nat
  byCategory : List (Category × Nat)
  bySeverity : List (Severity × Nat)
  detectors : Nat
deriving Repr, DecidableEq

inductive ScanFault where
  | bundle (e : BundleError)
  /-- a finding that cannot be made -/
  | finding (problems : List Problem)

/-- why an engine cannot be made -/
inductive EngineFault where
  | file (path : String) (f : PatternFileFault)
  | registry (f : RegistryFault)

variable [Scalar α]

def Stats.fields (s : Stats) : List (String × Value) :=
  [("total_patterns", .int s.patterns),
    ("patterns_by_category", textMap (s.byCategory.map fun e => (e.1.name, .int e.2))),
    ("patterns_by_severity", textMap (s.bySeverity.map fun e => (e.1.name, .int e.2))),
    ("loaded_detector_count", .int s.detectors)]

/-! ## detectors -/

/-- what came of a detector that was not passed over -/
inductive Answer (α : Type) where
  /-- it could not say whether it applies -/
  | broken (f : Fault)
  | reply (r : Reply α)
  /-- there was no time to ask it -/
  | late

namespace Answer

def signal? : Answer α → Option (Signal α)
  | reply (.signal s) => some s
  | _ => none

end Answer

abbrev Asked (α : Type) := Detector α (Hub α) × Answer α

/-- asks a detector, unless it does not apply -/
def ask (timeout : α) (b : Bundle α) (d : Detector α (Hub α)) (h : Hub α) :
    Option (Answer α) × Hub α :=
  match d.applies b with
  | .error f => (some (.broken f), h)
  | .ok false => (none, h)
  | .ok true =>
    if timeout ≤ Scalar.ofInt 0 then (some .late, h)
    else
      let (r, h) := d.analyze b h
      (some (.reply r), h)

def askAll (timeout : α) (b : Bundle α) : List (Detector α (Hub α)) → Hub α → List (Asked α) × Hub α
  | [], h => ([], h)
  | d :: ds, h =>
    let (answer, h) := ask timeout b d h
    let (rest, h) := askAll timeout b ds h
    ((answer.map fun a => (d, a)).toList ++ rest, h)

/-- the detectors that gave no signal -/
def failedIds (asked : List (Asked α)) : List String :=
  (asked.filter fun a => a.2.signal?.isNone).map fun a => a.1.id

/-! ### their notes -/

def detectorNote (c : Context) (d : Detector α (Hub α)) (message : String) : Note :=
  ⟨.engine, .warning, message, { c with detector := some d.id }⟩

def failureText (id : String) (f : Fault) : String := "Detector " ++ id ++ " failed: " ++ f.detail

def lateText (id : String) (timeout : α) : String :=
  "Detector " ++ id ++ " timed out after " ++ Scalar.fixed 1 timeout ++ "s"

def brokenText? (a : Asked α) : Option String :=
  match a.2 with
  | .broken f => some (failureText a.1.id f)
  | _ => none

def replyText? (a : Asked α) : Option String :=
  match a.2 with
  | .reply (.unavailable reason) => some ("Detector " ++ a.1.id ++ " " ++ reason)
  | .reply (.failed f) => some (failureText a.1.id f)
  | _ => none

def lateText? (timeout : α) (a : Asked α) : Option String :=
  match a.2 with
  | .late | .reply .silent => some (lateText a.1.id timeout)
  | _ => none

/-- first what broke before an answer was asked for, then the failures, then what came too late -/
def detectorNotes (c : Context) (timeout : α) (asked : List (Asked α)) : Diary :=
  [brokenText?, replyText?, lateText? timeout].flatMap fun text? =>
    asked.filterMap fun a => (text? a).map (detectorNote c a.1)

/-! ## findings -/

/-- what a finding is made from -/
inductive Lead (α : Type) where
  | rule (m : PatternMatch α)
  | signal (d : Detector α (Hub α)) (s : Signal α)

def Lead.finding (id : String) (b : Bundle α) : Lead α → Check (Finding α)
  | rule m => Finding.ofMatch id m b
  | signal d s => Finding.ofSignal id d s b

/-- the signals that cross the thresholds of their detectors -/
def signalLeads (asked : List (Asked α)) : List (Lead α) :=
  asked.filterMap fun a => (a.2.signal?.filter a.1.exceeds).map (.signal a.1)

def leads (s : Screening α) (asked : List (Asked α)) : List (Lead α) :=
  s.found.map .rule ++ signalLeads asked

/-- publishes the event of a finding -/
def Hub.announce (h : Hub α) (f : Finding α) (b : Bundle α) (scanId : String) : Hub α :=
  h.publish (.ofFinding h.now f b.address scanId)

/-- makes the findings of all leads, each with an identifier of its own, and announces them -/
def gather (b : Bundle α) (scanId : String) :
    List (Lead α) → Hub α → Except (List Problem) (List (Finding α)) × Hub α
  | [], h => (.ok [], h)
  | l :: ls, h =>
    let (id, h) := h.takeId
    match l.finding id b with
    | .error problems => (.error problems, h)
    | .ok f =>
      let (rest, h) := gather b scanId ls (h.announce f b scanId)
      (rest.map (f :: ·), h)

/-! ## scans -/

def startNote (c : Context) (b : Bundle α) : Note :=
  ⟨.engine, .info, "Scanning " ++ b.address ++ " on " ++ b.network, c⟩

def skipNote (c : Context) (e : Pattern α × Fault) : Note :=
  ⟨.screening, .warning,
    "Pattern " ++ e.1.id ++ " failed to evaluate: " ++ e.2.literal ++ "; skipping",
    { c with pattern := some e.1.id }⟩

def escalationNote (c : Context) (p : RiskProfile α) : Note :=
  ⟨.engine, .warning, "Composite risk " ++ Scalar.fixed 1 p.score ++ " exceeds " ++
    Scalar.fixed 0 (RiskProfile.escalationBound : α) ++ ", escalating", c⟩

def finishNote (c : Context) (count : Nat) (p : RiskProfile α) : Note :=
  ⟨.engine, .info, "Scan complete: " ++ Text.natText count ++ " findings, risk " ++
    Scalar.fixed 1 p.score ++ " (" ++ p.level.name ++ ")", { c with timed := true }⟩

/-- the findings with the one of the escalation, if the profile asks for it -/
def escalate (b : Bundle α) (scanId : String) (p : RiskProfile α) (fs : List (Finding α))
    (h : Hub α) : List (Finding α) × Hub α :=
  if p.needsEscalation then
    let (id, h) := h.takeId
    let f := Finding.escalation id p b
    (fs ++ [f], (h.announce f b scanId).write [escalationNote (.ofScan scanId b.address) p])
  else (fs, h)

/-- scans a bundle with the patterns registered at the start -/
def scanWith (timeout : α) (detectors : List (Detector α (Hub α))) (b : Bundle α) (h : Hub α) :
    Except (List Problem) (Report α) × Hub α :=
  let (scanId, h) := h.takeId
  let c := Context.ofScan scanId b.address
  let screening := screen h.registry.patterns b
  let h := h.write (startNote c b :: screening.skipped.map (skipNote c))
  let (asked, h) := askAll timeout b detectors h
  let h := h.write (detectorNotes c timeout asked)
  match gather b scanId (leads screening asked) h with
  | (.error problems, h) => (.error problems, h)
  | (.ok findings, h) =>
    let risk := RiskProfile.ofFindings findings
    let (all, h) := escalate b scanId risk findings h
    (.ok {
      scanId
      address := b.address
      network := b.network
      findings := Finding.rank all
      risk
      escalated := risk.needsEscalation
      skippedPatterns := screening.skippedIds
      failedDetectors := failedIds asked },
    h.write [finishNote c all.length risk])

namespace Engine

def scanBundle (e : Engine α) (b : Bundle α) : Except (List Problem) (Report α) × Engine α :=
  let (report, hub) := scanWith e.timeout e.detectors b e.hub
  (report, { e with hub })

/-- scans what a bundle is read from; nothing happens if there is no bundle -/
def scan (e : Engine α) (source : BundleSource) : Except ScanFault (Report α) × Engine α :=
  match Bundle.forScan source with
  | .error f => (.error (.bundle f), e)
  | .ok b =>
    let (report, e) := e.scanBundle b
    (report.mapError .finding, e)

/-! ## changes -/

def withRegistry (e : Engine α) (r : Registry α) : Engine α :=
  { e with hub := { e.hub with registry := r } }

def write (e : Engine α) (notes : Diary) : Engine α := { e with hub := e.hub.write notes }

/-! ## engines -/

/-- adds the patterns of a file to a registry: the notes of it or a fault, and the registry as it is then -/
def addFile (files : FileTree) (path : String) (r : Registry α) (m : Machine := .standard) :
    Except EngineFault Diary × Registry α :=
  match Pattern.load files path m with
  | .error f => (.error (.file path f), r)
  | .ok ps =>
    match r.registerEach ps with
    | (some f, r) => (.error (.registry f), r)
    | (none, r) => (.ok [Pattern.loadNote ps.length path], r)

/-- adds the patterns of the file that the settings name, if they name one -/
def addCustom (settings : Settings α) (files : FileTree) (r : Registry α) (m : Machine) :
    Except EngineFault Diary × Registry α :=
  if settings.customPatterns.isEmpty then (.ok [], r) else addFile files settings.customPatterns r m

/-- the detectors that settings ask for -/
def detectorsOf (settings : Settings α) : List (Detector α (Hub α)) :=
  if settings.enableDetectors then Detector.standard else []

/-- an engine on a registry, and the registry as it is left; the given detectors stand for those of the
settings -/
def ofSettings (settings : Settings α) (detectors : Option (List (Detector α (Hub α))))
    (files : FileTree) (supply : Supply) (now : α) (r : Registry α) (m : Machine := .standard) :
    Except EngineFault (Engine α) × Registry α :=
  match addCustom settings files r m with
  | (.error f, r) => (.error f, r)
  | (.ok notes, r) =>
    (.ok {
      timeout := settings.detectorTimeout
      detectors := detectors.getD (detectorsOf settings)
      hub := ⟨r, .ofStandard settings.eventQueueSize, supply, now, notes⟩ }, r)

def stats (e : Engine α) : Stats where
  patterns := e.hub.registry.size
  byCategory := e.hub.registry.countByCategory
  bySeverity := e.hub.registry.countBySeverity
  detectors := e.detectors.length

/-! ## patterns -/

def addNote (p : Pattern α) : Note :=
  ⟨.engine, .info, "Added custom pattern " ++ p.id, .ofPattern p.id⟩

/-- registers a pattern for all later scans -/
def addPattern (e : Engine α) (p : Pattern α) : Except RegistryFault (Engine α) :=
  (e.hub.registry.register p).map fun r => (e.withRegistry r).write [addNote p]

/-- updates a pattern; false if there is none with the identifier -/
def updatePattern (e : Engine α) (id : String) (a : Amendment α) :
    Except RegistryFault (Bool × Engine α) :=
  match e.hub.registry.update id a with
  | .ok (p, r) => .ok (true, (e.withRegistry r).write [Registry.updateNote p a])
  | .error (.notFound _) => .ok (false, e)
  | .error f => .error f

end Engine

end ContractRisk
