import QualityGate.Gate.Run
import QualityGate.Report.ErrorList
import QualityGate.Toolbox.Check
import QualityGate.Toolbox.Fix

namespace QualityGate.Gate

variable {m : Type → Type} [Monad m] [Log.Journal m]

/-- The gate that checks and repairs with the commands of the settings, if their policy is one. -/
def ofSettings (host : Host m) (s : Settings) : Except GateError (Gate m) := do
  let policy ← Policy.ofSettings s.policy
  return ⟨Toolbox.checker host s.tools, Toolbox.fixer host s.tools, ErrorList.text?, policy,
    s.remediation.revalidate⟩

end QualityGate.Gate
