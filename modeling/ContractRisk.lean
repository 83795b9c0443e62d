import ContractRisk.Text.Quoted
import ContractRisk.Text.LetterCase
import ContractRisk.Text.Search
import ContractRisk.Text.WordChar
import ContractRisk.Decimal.Layout
import ContractRisk.Value
import ContractRisk.Decimal.Literal
import ContractRisk.Json.Reader
import ContractRisk.Json.Writer
import ContractRisk.Json.Document
import ContractRisk.Check
import ContractRisk.Severity
import ContractRisk.Scalar
import ContractRisk.Bundle.Reading
import ContractRisk.Bundle.View
import ContractRisk.Heuristic
import ContractRisk.Regex.Matching
import ContractRisk.Regex.Reading
import ContractRisk.Condition
import ContractRisk.Pattern.Catalog
import ContractRisk.Screening
import ContractRisk.Pattern.Entry
import ContractRisk.Detector.Standard
import ContractRisk.Finding.Synthesis
import ContractRisk.Bus
import ContractRisk.Registry
import ContractRisk.Engine
import ContractRisk.Settings
import ContractRisk.Text.Lines
import ContractRisk.Yaml.Fault
import ContractRisk.Yaml.Cursor
import ContractRisk.Yaml.Plain
import ContractRisk.Yaml.Quoted
import ContractRisk.Yaml.Block
import ContractRisk.Yaml.Token
import ContractRisk.Yaml.Tag
import ContractRisk.Yaml.Node
import ContractRisk.Digest.Base64
import ContractRisk.Yaml.Reading
import ContractRisk.Path
import ContractRisk.Pattern.File
import ContractRisk.Timestamp
import ContractRisk.Webhook
import ContractRisk.Webhook.Body
import ContractRisk.Notification
import ContractRisk.Bundle.Record
import ContractRisk.Report
import ContractRisk.CommandLine.Words
import ContractRisk.CommandLine.Page
import ContractRisk.CommandLine.Invocation
import ContractRisk.CommandLine.Paint
import ContractRisk.CommandLine.Table
import ContractRisk.CommandLine.Session
import ContractRisk.Decimal.Scientific
import ContractRisk.Log.Template
import ContractRisk.Log.Record
import ContractRisk.Log.Setup
import ContractRisk.Proofs.Number.Double
import ContractRisk.Proofs.Finding.Ranking
import ContractRisk.Proofs.Pattern.Definition
import ContractRisk.Proofs.Registry.Reachable
import ContractRisk.Proofs.Registry.Catalog
import ContractRisk.Proofs.Scan.Screening
import ContractRisk.Proofs.Scan.Polling
import ContractRisk.Proofs.Finding.Making
import ContractRisk.Proofs.Scan.Course
import ContractRisk.Proofs.Scan.Findings
import ContractRisk.Proofs.Scan.Announcement
import ContractRisk.Proofs.Pattern.Entry
import ContractRisk.Proofs.Number.Fraction
import ContractRisk.Proofs.Scan.Escalation
import ContractRisk.Proofs.Value.Equality
import ContractRisk.Proofs.Finding.Content
import ContractRisk.Proofs.Scan.Isolation
import ContractRisk.Proofs.Bus.Queue
import ContractRisk.Proofs.Bus.Conservation
import ContractRisk.Proofs.Scan.Publication
import ContractRisk.Proofs.Registry.Calls
import ContractRisk.Proofs.Scan.Interleaving
import ContractRisk.Proofs.Notification.Dispatch
import ContractRisk.Proofs.Notification.Relay
import ContractRisk.Proofs.CommandLine.Listing
import ContractRisk.Proofs.CommandLine.Scanning
import ContractRisk.Proofs.CommandLine.ExitCode
import ContractRisk.Proofs.CommandLine.Posting
import ContractRisk.Proofs.Bundle.Fields
import ContractRisk.Proofs.Json.Data
import ContractRisk.Proofs.Bundle.RoundTrip
import ContractRisk.Proofs.Bundle.Parsing
import ContractRisk.Proofs.Pattern.File
import ContractRisk.Proofs.Scan.Namespaces
import ContractRisk.Proofs.Scan.Repetition
import ContractRisk.Proofs.CommandLine.Presentation
import ContractRisk.Proofs.CommandLine.Outcome
import ContractRisk.Proofs.Heuristic.Missing
import ContractRisk.Proofs.Number.Extended
import ContractRisk.Proofs.Detector.Senders
import ContractRisk.Proofs.Detector.Confidence
import ContractRisk.Proofs.Notification.Twins
import ContractRisk.Proofs.CommandLine.Secrecy
import ContractRisk.Proofs.Text.AsciiCase
import ContractRisk.Proofs.Number.Whole
import ContractRisk.Proofs.Number.Half
import ContractRisk.Proofs.Detector.Order
import ContractRisk.Proofs.Text.Trimming
import ContractRisk.Proofs.Text.LowerCase
import ContractRisk.Proofs.Detector.Selectors
import ContractRisk.Proofs.Detector.KnownBuilds
import ContractRisk.Proofs.Heuristic.Concentration
import ContractRisk.Proofs.Heuristic.Pragma
import ContractRisk.Proofs.Number.Rounding
import ContractRisk.Proofs.Finding.Score
import ContractRisk.Proofs.Number.Scaled
import ContractRisk.Proofs.Registry.Amendments
import ContractRisk.Proofs.Scan.Foremost
import ContractRisk.Proofs.Text.Occurrence
import ContractRisk.Proofs.Json.Texts
import ContractRisk.Proofs.Bundle.Texts
import ContractRisk.Proofs.Registry.Files
import ContractRisk.Proofs.Scan.Patternwise
import ContractRisk.Proofs.CommandLine.Timeout
import ContractRisk.Proofs.Notification.Isolation
import ContractRisk.Proofs.Registry.Listings
import ContractRisk.Proofs.Detector.Appended
import ContractRisk.Proofs.Detector.Sentiment
import ContractRisk.Proofs.Bundle.Spelling
import ContractRisk.Proofs.Bundle.Respelling
import ContractRisk.Proofs.Number.Equal
import ContractRisk.Proofs.Value.Key
import ContractRisk.Proofs.Value.Firsts
import ContractRisk.Proofs.Pattern.Canonical
