import ContractRisk.Bundle.Reading
import ContractRisk.Finding
import ContractRisk.Path
import ContractRisk.Settings.EnvFile

/-!
# Settings

Settings come from given fields, from environment variables and from an environment file, the earlier
source winning for each field. Variables carry a prefix and may be spelled in any letter case.
-/

namespace ContractRisk

structure Settings (α : Type) where
  appName : String
  appEnv : String
  logLevel : String
  enableDetectors : Bool
  /-- seconds that a detector may take -/
  detectorTimeout : α
  /-- a file of further patterns, none if this is empty -/
  customPatterns : String
  eventQueueSize : Int
  slackUrl : String
  discordUrl : String
  genericUrl : String
  webhookFloor : Severity
  webhookTimeout : α

namespace Settings

def appEnvs : List String := ["development", "staging", "production"]

variable {α : Type} [Scalar α]

def checkPositive (path : List String) (v : Value) : Check α :=
  match checkScalar path v with
  | .error p => .error p
  | .ok x => if Scalar.ofInt 0 < x then .ok x else Check.fail path (.notGreater 0)

def checkCount (path : List String) (v : Value) : Check Int :=
  match Check.integer path v with
  | .error p => .error p
  | .ok i => if i < 1 then Check.fail path (.below 1) else .ok i

def ofFields (fs : Fields) : Check (Settings α) :=
  mk <$> Check.field fs [] ["app_name"] (.ok "threatscan") Check.text
    <*> Check.field fs [] ["app_env"] (.ok "development")
      (Check.among appEnvs fun s => appEnvs.find? (· == s))
    <*> Check.field fs [] ["log_level"] (.ok "INFO") Check.text
    <*> Check.field fs [] ["enable_detectors"] (.ok true) Check.boolean
    <*> Check.field fs [] ["detector_timeout_seconds"] (.ok (5.0 : α)) checkPositive
    <*> Check.field fs [] ["custom_patterns_path"] (.ok "") Check.text
    <*> Check.field fs [] ["event_queue_size"] (.ok 1000) checkCount
    <*> Check.field fs [] ["slack_webhook_url"] (.ok "") Check.text
    <*> Check.field fs [] ["discord_webhook_url"] (.ok "") Check.text
    <*> Check.field fs [] ["generic_webhook_url"] (.ok "") Check.text
    <*> Check.field fs [] ["webhook_min_severity"] (.ok .high) checkSeverity
    <*> Check.field fs [] ["webhook_timeout_seconds"] (.ok (10.0 : α)) checkScalar

/-- all fields as data -/
def fields (s : Settings α) : Fields :=
  [("app_name", .text s.appName), ("app_env", .text s.appEnv), ("log_level", .text s.logLevel),
    ("enable_detectors", .bool s.enableDetectors),
    ("detector_timeout_seconds", .float (Scalar.toFloat s.detectorTimeout)),
    ("custom_patterns_path", .text s.customPatterns), ("event_queue_size", .int s.eventQueueSize),
    ("slack_webhook_url", .text s.slackUrl), ("discord_webhook_url", .text s.discordUrl),
    ("generic_webhook_url", .text s.genericUrl),
    ("webhook_min_severity", .text s.webhookFloor.name),
    ("webhook_timeout_seconds", .float (Scalar.toFloat s.webhookTimeout))]

/-! ## sources -/

def fieldNames : List String :=
  ["app_name", "app_env", "log_level", "enable_detectors", "detector_timeout_seconds",
    "custom_patterns_path", "event_queue_size", "slack_webhook_url", "discord_webhook_url",
    "generic_webhook_url", "webhook_min_severity", "webhook_timeout_seconds"]

/-- the start of the names of variables, in lower case -/
def variableMark : String := "threatscan_"

/-- the value bound for a field, by the last one of the names that differ in letter case alone -/
def bound? (bs : List EnvFile.Binding) (field : String) : Option Value :=
  ((bs.filter fun b => Text.lower b.1 = variableMark ++ field).getLast?.bind Prod.snd).map .text

/-- the fields that the sources set, each from the first source that has it -/
def merge (given : Fields) (environment file : List EnvFile.Binding) : Fields :=
  fieldNames.filterMap fun name =>
    (((Check.find? name given).or (bound? environment name)).or (bound? file name)).map
      fun v => (name, v)

/-- settings from given fields, environment variables and the text of an environment file -/
def ofSources (given : Fields) (environment : List (String × String)) (file : Option (List Char)) :
    Check (Settings α) :=
  let bindings := environment.map fun v => (v.1, some v.2)
  ofFields (merge given bindings (file.elim [] (EnvFile.read environment)))

/-- the path of the environment file -/
def fileName : String := ".env"

/-- the text of the environment file, if there is one -/
def fileText (files : FileTree) : Except TextFault (Option (List Char)) :=
  match files.text fileName with
  | .ok cs => .ok (some cs)
  | .error .noPath => .ok none
  | .error (.file f) => if f.isAbsence then .ok none else .error (.file f)
  | .error .noText => .error .noText

end Settings

end ContractRisk
