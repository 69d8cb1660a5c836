import QualityGate.ExitStatus
import QualityGate.Report.Blocking
import QualityGate.Report.Narration

namespace QualityGate

structure HookReport where
  status : ExitStatus
  narration : List Narration
  blocking : Option BlockingMessage
  decision : Option Decision

def HookReport.blockingText (r : HookReport) : Option String :=
  r.blocking.map BlockingMessage.render

def ExitStatus.ofBlocking : Option BlockingMessage → ExitStatus
  | some _ => .qualityIssues
  | none => .success

structure Draft where
  narration : List Narration
  decision : Option Decision

namespace Draft

def empty : Draft :=
  ⟨[], none⟩

def narrate (d : Draft) (n : Narration) : Draft :=
  { d with narration := d.narration ++ [n] }

def decide (d : Draft) (decision : Decision) : Draft :=
  { d with decision := some decision }

def finish (d : Draft) (blocking : Option BlockingMessage) : HookReport :=
  ⟨.ofBlocking blocking, d.narration, blocking, d.decision⟩

def succeed (d : Draft) : HookReport :=
  d.finish none

def block (d : Draft) (reason context : String) : HookReport :=
  d.finish (some ⟨reason, some context⟩)

end Draft
end QualityGate
