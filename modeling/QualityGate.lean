import QualityGate.Gate.Scripted
import QualityGate.Json.Read
import QualityGate.Main
import QualityGate.Proofs.Gate.Transcript
import QualityGate.Proofs.Decision
import QualityGate.Proofs.Gate.Course
import QualityGate.Proofs.Diagnostic.Policy
import QualityGate.Proofs.Gate.Answers
import QualityGate.Proofs.Gate.Verdict
import QualityGate.Proofs.Gate.Protocol
import QualityGate.Proofs.Diagnostic.Rule
import QualityGate.Proofs.Findings.Eslint
import QualityGate.Proofs.Findings.Agreement
import QualityGate.Proofs.Findings.Blank
import QualityGate.Proofs.Toolbox.Check
import QualityGate.Proofs.Toolbox.Fix
import QualityGate.Proofs.Gate.Delegation
import QualityGate.Proofs.Text.Lines
import QualityGate.Proofs.Text.Blank
import QualityGate.Proofs.Report.Blocking
import QualityGate.Proofs.Report.Reading
import QualityGate.Proofs.Report.ErrorList
import QualityGate.Proofs.Report.Listing
import QualityGate.Proofs.Gate.Blocked
import QualityGate.Proofs.Gate.Listed
import QualityGate.Proofs.Gate.Silence
import QualityGate.Proofs.Findings.OneLine
import QualityGate.Proofs.Text.Digits
import QualityGate.Proofs.Payload.Screening
import QualityGate.Proofs.Cli.Dispatch
import QualityGate.Proofs.Cli.Containment
import QualityGate.Proofs.LogFree
import QualityGate.Proofs.Gate.FirstPass
import QualityGate.Proofs.Cli.Checking
import QualityGate.Proofs.Cli.Agreement
import QualityGate.Proofs.Toolbox.Provenance
import QualityGate.Proofs.Settings.Layering
import QualityGate.Proofs.Diagnostic.Conflict
import QualityGate.Proofs.Settings.Conflict
import QualityGate.Proofs.Toolbox.Repair
import QualityGate.Proofs.Findings.Listing
import QualityGate.Proofs.Json.Scan
import QualityGate.Proofs.Json.Compact
import QualityGate.Proofs.Cli.Feedback
import QualityGate.Proofs.Decision.Composition
import QualityGate.Proofs.Diagnostic.Grammar
import QualityGate.Proofs.Decision.Easing
import QualityGate.Proofs.Findings.Locality
import QualityGate.Proofs.Text.Utf8
import QualityGate.Proofs.Payload.Intake
import QualityGate.Proofs.Payload.Extension
import QualityGate.Proofs.Json.Quotation
import QualityGate.Proofs.Json.Numeral
import QualityGate.Proofs.Json.Document
import QualityGate.Proofs.Json.Spelling
import QualityGate.Proofs.Wire.RoundTrip
import QualityGate.Proofs.Wire.Meaning
import QualityGate.Proofs.Wire.Agreement
import QualityGate.Proofs.Wire.Indifference
import QualityGate.Proofs.Wire.Printed
import QualityGate.Proofs.RoundTrip
import QualityGate.Proofs.Payload.Surplus
import QualityGate.Proofs.Gate.Ensemble
