import QualityGate.Gate.Remediation
import QualityGate.Report.HookReport

namespace QualityGate

/-- What brings a file to the gate: the file, the identity that the log and the messages know the
matter by, and the operation of the agent, if there was one. -/
structure Errand where
  file : String
  correlationId : String
  operation : Option String
deriving DecidableEq, Repr

def Errand.span (e : Errand) : Log.Span where
  fields := [("correlation_id", e.correlationId), ("operation", e.operation.getD "unknown"),
    ("file_path", e.file)]

/-- A check and the decision about it. There is none when the check succeeded. -/
structure Evaluation where
  report : CheckReport
  outcome : CheckOutcome
  decision : Option Decision

namespace Gate

variable {m : Type → Type} [Monad m] [Log.Journal m]

open Log (event)

def manualContext : String := "Quality issues require manual intervention"

def fixFailedContext : String := "Auto-fix failed, quality issues need attention"

def remainingContext : String := "Some issues remain after auto-fix"

def assess (g : Gate m) (file : String) : m (Except GateError Evaluation) := do
  event .info .run "Quality check started" ["checker"]
  match ← g.checker.check file with
  | .error e => return .error e
  | .ok report =>
    let outcome ← g.outcomeOf file report
    event .info .run "Quality check completed" ["issue_count", "duration_ms"]
    if report.success then return .ok ⟨report, outcome, none⟩
    else
      event .info .run "Autopilot decision" ["action", "issue_count", "reasoning"]
      return .ok ⟨report, outcome, some (.ofOutcome outcome)⟩

def settle (g : Gate m) (draft : Draft) (decision : Decision) (e : Evaluation) (remedy : Remedy) :
    m HookReport := do
  let file := e.outcome.filePath
  match remedy with
  | .failed =>
    -- the repair may have changed the file, but what the first check found is still to be done
    let reason := (g.formatter e.report).getD (BlockingMessage.issuesText e.outcome.issues)
    return (draft.narrate (.autoFixFailed file)).block reason fixFailedContext
  | .resolved =>
    -- the fixable issues count as repaired, and the decision keeps the others
    if decision.action = .fixAndReport then
      event .warn .run "Some issues remain after auto-fix" ["remaining"]
      return draft.block (BlockingMessage.issuesText decision.issues) remainingContext
    else return (draft.narrate (.autoFixed file)).succeed
  | .revalidated outcome _ =>
    if outcome.isClean then return (draft.narrate (.autoFixed file)).succeed
    else
      event .warn .run "Some issues remain after auto-fix" ["remaining"]
      return draft.block (BlockingMessage.issuesText outcome.issues) remainingContext

def carryOut (g : Gate m) (file : String) (e : Evaluation) (decision : Decision) :
    m HookReport := do
  let draft := (Draft.empty.decide decision).narrate
    (.decided decision.action e.outcome.issues.length)
  if decision.action.requiresFix then
    let remedy ← g.remediate file e.report
    g.settle (draft.narrate (.autoFixing file)) decision e remedy
  else if decision.action = .reportOnly then
    event .warn .run "Quality issues require manual intervention" ["issue_count"]
    return draft.block (BlockingMessage.issuesText decision.issues) manualContext
  else
    event .info .run "Continuing" ["reason"]
    return draft.succeed

def process (g : Gate m) (file : String) : m (Except GateError HookReport) := do
  match ← g.assess file with
  | .error e => return .error e
  | .ok e =>
    let report ← match e.decision with
      | none => pure (Draft.empty.narrate (.checksPassed file)).succeed
      | some decision => g.carryOut file e decision
    event .info .run "Hook completed" ["success", "duration_ms"]
    return .ok report

def evaluate (g : Gate m) (e : Errand) : m (Except GateError Evaluation) :=
  Log.Journal.within e.span (g.assess e.file)

def run (g : Gate m) (e : Errand) : m (Except GateError HookReport) :=
  Log.Journal.within e.span (g.process e.file)

end Gate
end QualityGate
