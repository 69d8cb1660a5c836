import QualityGate.Facilities
import QualityGate.Gate.Assembly
import QualityGate.Report.Summary

namespace QualityGate.Cli

/-- What went wrong, in words, and what it was caused by, the outermost first. -/
structure Failure where
  message : String
  causes : List String
deriving DecidableEq, Repr

namespace Failure

def line (f : Failure) : String :=
  ": ".intercalate (f.message :: f.causes)

def json (f : Failure) : Json :=
  .ofMembers [("error", .string f.message), ("chain", .strings f.causes)]

def mark (colours : Bool) : String :=
  if colours then select Colour.red.code ++ select "1" ++ "Error:" ++ select "0" else "Error:"

def output (asJson colours : Bool) (f : Failure) : Output :=
  if asJson then .errorLine f.json.pretty else .errorLine (mark colours ++ " " ++ f.line)

end Failure

structure CheckCall where
  file : String
  noFix : Bool
  correlationId : String
deriving DecidableEq, Repr

namespace CheckCall

variable {m : Type → Type} [Monad m] [Log.Journal m]

def ofEvaluation (file : String) (e : Evaluation) : CheckSummary :=
  let status : ExitStatus := if e.outcome.isClean then .success else .qualityIssues
  ⟨file, e.decision.map Decision.action, e.outcome.issues, none, Int32.ofNat status.code⟩

def ofReport (file : String) (r : HookReport) : CheckSummary :=
  ⟨file, r.decision.map Decision.action, (r.decision.map Decision.issues).getD [], r.blockingText,
    Int32.ofNat r.status.code⟩

def summary (call : CheckCall) (gate : Gate m) : m (Except GateError CheckSummary) := do
  let errand := ⟨call.file, call.correlationId, some "check"⟩
  if call.noFix then return (← gate.evaluate errand).map (ofEvaluation call.file)
  else return (← gate.run errand).map (ofReport call.file)

def perform (call : CheckCall) (host : Host m) (settings : Settings) :
    m (Except Failure CheckSummary) := do
  match Gate.ofSettings host settings with
  | .error e => return .error ⟨"Invalid classification policy", e.chain⟩
  | .ok gate =>
    return (← call.summary gate).mapError fun e =>
      ⟨"Quality check failed for " ++ call.file, e.chain⟩

def conclude (asJson colours : Bool) (r : Except Failure CheckSummary) : ExitStatus × Output :=
  match r with
  | .error f => (.error, f.output asJson colours)
  | .ok s =>
    let status : ExitStatus :=
      if s.exitCode = Int32.ofNat ExitStatus.qualityIssues.code then .qualityIssues else .success
    (status, .line (if asJson then s.json.pretty else s.human colours))

def execute (call : CheckCall) (f : Facilities m) (config : Option String)
    (asJson colours : Bool) : m (ExitStatus × Output) := do
  match f.settings config with
  | .error e =>
    return conclude asJson colours (.error ⟨"Failed to load quality-hook configuration", e.chain⟩)
  | .ok settings =>
    let said ← f.startLogger settings.logging
    let r ← call.perform f.host settings
    let (status, output) := conclude asJson colours r
    return (status, said ++ output)

end CheckCall
end QualityGate.Cli
