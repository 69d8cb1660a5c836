import QualityGate.Payload.Basic
import QualityGate.Settings.Basic

namespace QualityGate.Payload

inductive Verdict
  | accept (operation file : String)
  | missingFields
  | unsupportedOperation (operation : String)
  | unsupportedFile (file : String)
deriving DecidableEq, Repr

def screen (hook : HookSettings) (p : Payload) : Verdict :=
  match p.operation?, p.filePath? with
  | some operation, some file =>
    if !hook.handlesOperation operation then .unsupportedOperation operation
    else if !hook.handlesFile file then .unsupportedFile file
    else .accept operation file
  | _, _ => .missingFields

end QualityGate.Payload
