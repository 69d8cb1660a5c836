import QualityGate.Host
import QualityGate.Log.Event
import QualityGate.Settings.Basic

namespace QualityGate

namespace ToolSettings

def command (t : ToolSettings) (args : List String) (file : String) : Command :=
  ⟨t.program, args ++ [file]⟩

def checkCommand (t : ToolSettings) (file : String) : Command :=
  t.command t.args file

def fixCommand (t : ToolSettings) (file : String) : Command :=
  t.command t.fixArgs file

end ToolSettings

/-- What came of a run. Bytes that are no text are replaced in what the tool wrote. -/
structure ToolRun where
  exitCode : Option Nat
  stdout : String
  stderr : String
deriving DecidableEq, Repr

namespace ToolRun

def ofCompletion (c : Completion) : ToolRun :=
  ⟨c.exitCode, Text.Utf8.decodeLossy c.stdout, Text.Utf8.decodeLossy c.stderr⟩

/-- Only the exit code zero is a success. -/
def success (r : ToolRun) : Bool :=
  r.exitCode == some 0

end ToolRun

namespace Toolbox

variable {m : Type → Type} [Monad m] [Log.Journal m]

open Log (event)

def perform (host : Host m) (tool : Tool) (c : Command) : m (Except GateError ToolRun) := do
  event .debug .command "Running tool" ["tool", "program", "args", "file_path"]
  match ← host.perform c with
  | .error cause =>
    event .error .command "Failed to spawn tool" ["tool", "error"]
    return .error (.toolSpawn tool cause)
  | .ok completion => return .ok (.ofCompletion completion)

end Toolbox
end QualityGate
