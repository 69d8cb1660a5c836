import QualityGate.Diagnostic.Policy
import QualityGate.Gate.Collaborator
import QualityGate.Log.Event

namespace QualityGate

inductive Remedy
  /-- The fixer succeeded and is trusted. -/
  | resolved
  /-- The fixer succeeded and the file was checked again. The fixable issues among the ones that
  are left are unresolved. -/
  | revalidated (outcome : CheckOutcome) (unresolved : List Issue)
  | failed
deriving DecidableEq, Repr

/-- A gate for files: its collaborators, its policy, and whether files are checked again after a
repair. -/
structure Gate (m : Type → Type) where
  checker : Checker m
  fixer : Fixer m
  formatter : Formatter
  policy : Policy
  revalidate : Bool

namespace Gate

variable {m : Type → Type} [Monad m] [Log.Journal m]

open Log (event)

def outcomeOf (g : Gate m) (file : String) (report : CheckReport) : m CheckOutcome := do
  if report.success then return .ofIssues file [] false
  else
    event .debug .aggregation "Aggregated diagnostics"
      ["file_path", "issue_count", "report_success"]
    return g.policy.outcome file report

def recheck (g : Gate m) (file : String) : m Remedy := do
  match ← g.checker.check file with
  | .error _ =>
    -- nothing speaks against the fixer, so it is trusted
    event .warn .remediation "Re-validation failed, trusting fixer result" ["file_path", "error"]
    return .resolved
  | .ok report =>
    let outcome ← g.outcomeOf file report
    let unresolved := outcome.issues.filter Issue.fixable
    if !unresolved.isEmpty then
      event .warn .remediation "Fixable issues survived auto-fix" ["file_path", "unresolved"]
    event .info .remediation "Re-validation complete" ["file_path", "remaining"]
    return .revalidated outcome unresolved

def remediate (g : Gate m) (file : String) (report : CheckReport) : m Remedy := do
  event .info .remediation "Auto-fix started" ["fixer", "file_path", "candidates"]
  match ← g.fixer.fix file report with
  | .error _ =>
    event .error .remediation "Auto-fix errored" ["file_path", "duration_ms", "error"]
    return .failed
  | .ok ⟨false⟩ =>
    event .error .remediation "Auto-fix failed" ["file_path", "duration_ms"]
    return .failed
  | .ok ⟨true⟩ =>
    event .info .remediation "Auto-fix completed"
      ["file_path", "fixed", "remaining", "duration_ms"]
    if g.revalidate then g.recheck file else return .resolved

end Gate
end QualityGate
