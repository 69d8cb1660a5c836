import QualityGate.Gate.Collaborator
import QualityGate.Toolbox.Run

namespace QualityGate.Toolbox

def repairers (settings : ToolsSettings) (report : CheckReport) : List Tool :=
  report.failingTools.filter fun t => (settings.get t).enabled && (settings.get t).canFix

variable {m : Type → Type} [Monad m] [Log.Journal m]

open Log (event)

/-- The given tools run one after another, also after one that fails. The first that cannot be
started ends the repair. -/
def fixWith (host : Host m) (settings : ToolsSettings) (file : String) :
    List Tool → Bool → m (Except GateError FixResult)
  | [], success => do
    event .debug .fixer "Fix pass finished" ["attempted", "success"]
    return .ok ⟨success⟩
  | tool :: tools, success => do
    match ← perform host tool ((settings.get tool).fixCommand file) with
    | .error e => return .error e
    | .ok run =>
      if !run.success then event .warn .fixer "Fix command failed" ["tool", "exit_code"]
      fixWith host settings file tools (success && run.success)

def fixer (host : Host m) (settings : ToolsSettings) : Fixer m where
  fix file report := fixWith host settings file (repairers settings report) true

end QualityGate.Toolbox
