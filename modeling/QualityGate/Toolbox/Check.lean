import QualityGate.Findings.Errors
import QualityGate.Gate.Collaborator
import QualityGate.Toolbox.Run

namespace QualityGate

/-- A report with the errors of one more tool. It is a success only if there are none. -/
def CheckReport.add (r : CheckReport) (tool : Tool) (errors : List String) : CheckReport :=
  ⟨r.success && errors.isEmpty, r.tools.set tool ⟨errors⟩⟩

namespace Toolbox

def unexplained (tool : Tool) (exitCode : Option Nat) : String :=
  tool.label ++ " reported problems (exit code " ++ (exitCode.map Text.Digits.decimal).getD "none"
    ++ ")"

def errorsOf (tool : Tool) (run : ToolRun) : List String :=
  if run.success then []
  else
    match Findings.errors tool run.stdout run.stderr with
    -- a failure is not passed over because its words are not understood
    | [] => [unexplained tool run.exitCode]
    | e :: es => e :: es

variable {m : Type → Type} [Monad m] [Log.Journal m]

open Log (event)

/-- The given tools run one after another. The first that cannot be started ends the check. -/
def checkWith (host : Host m) (settings : ToolsSettings) (file : String) :
    List Tool → CheckReport → m (Except GateError CheckReport)
  | [], report => return .ok report
  | tool :: tools, report => do
    let t := settings.get tool
    if t.enabled then
      match ← perform host tool (t.checkCommand file) with
      | .error e => return .error e
      | .ok run =>
        event .info .checker "Tool check complete" ["tool", "pass", "error_count"]
        checkWith host settings file tools (report.add tool (errorsOf tool run))
    else checkWith host settings file tools report

def checker (host : Host m) (settings : ToolsSettings) : Checker m where
  check file := checkWith host settings file Tool.all .clean

end Toolbox
end QualityGate
