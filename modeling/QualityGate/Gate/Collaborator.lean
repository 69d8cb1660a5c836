import QualityGate.Diagnostic.Report
import QualityGate.Error

namespace QualityGate

variable (m : Type → Type)

structure Checker where
  check : String → m (Except GateError CheckReport)

/-- What a fixer says of its attempt; the file may have changed in any case. -/
structure FixResult where
  success : Bool
deriving DecidableEq, Repr

structure Fixer where
  fix : String → CheckReport → m (Except GateError FixResult)

abbrev Formatter := CheckReport → Option String

end QualityGate
