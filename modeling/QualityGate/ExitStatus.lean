import QualityGate.Wire.Form

namespace QualityGate

inductive ExitStatus
  /-- The agent may go on. -/
  | success
  /-- The invocation itself went wrong. -/
  | error
  /-- The agent has to do something about the file first. -/
  | qualityIssues
deriving DecidableEq, Repr, Inhabited

namespace ExitStatus

def all : List ExitStatus :=
  [success, error, qualityIssues]

def name : ExitStatus → String
  | success => "success"
  | error => "error"
  | qualityIssues => "quality_issues"

def code : ExitStatus → Nat
  | success => 0
  | error => 1
  | qualityIssues => 2

def isSuccess : ExitStatus → Bool
  | success => true
  | error | qualityIssues => false

def form : Wire.Form ExitStatus :=
  .oneOf all name (by intro s; cases s <;> decide)

end ExitStatus
end QualityGate
