import QualityGate.Diagnostic.Tool
import QualityGate.Findings.Eslint
import QualityGate.Findings.Prettier
import QualityGate.Findings.Typescript

namespace QualityGate.Findings

def error? : Tool → List Char → Option String
  | .prettier => Prettier.error?
  | .eslint => Eslint.error?
  | .typescript => Typescript.error?

def errors (tool : Tool) (stdout stderr : String) : List String :=
  (outputLines stdout stderr).filterMap (error? tool)

end QualityGate.Findings
