import QualityGate.Gate.Run
import QualityGate.Log.World
import QualityGate.Report.Emission
import QualityGate.Text.Quoted

namespace QualityGate

open Log

def Log.Breakdown.message (task : String) (b : Breakdown) : String :=
  "pipeline panicked: task " ++ task ++ " panicked with message " ++ Text.Quoted.text b.words

namespace Gate

variable {m : Type → Type} [Monad m] [Journal m]

def forgive (feedback : Bool) (correlationId fault : String) : m (ExitStatus × Output) := do
  event .error .hook "Hook error" ["correlation_id", "error", "phase"]
  return (.success, .ofNarration feedback (.hookError fault correlationId))

/-- The file of an errand goes through the gate in the task of the given name, and if that ends, it
ends in an orderly way. A breakdown is noticed by itself as well. -/
def guard (g : Gate (Fragile m)) (feedback : Bool) (task : String) (notice : Breakdown → String)
    (e : Errand) : m (ExitStatus × Output) := do
  match ← (g.run e).run with
  | .ok (.ok report) => return (report.status, .ofReport feedback report)
  | .ok (.error fault) => forgive feedback e.correlationId fault.message
  | .error b =>
    let (status, output) ← forgive feedback e.correlationId (b.message task)
    return (status, ⟨"", notice b⟩ ++ output)

end Gate
end QualityGate
