import QualityGate.Diagnostic.Report
import QualityGate.Text.Blank

namespace QualityGate.ErrorList

def entry (tool : Tool) (error : String) : String :=
  tool.label ++ ": " ++ Text.Blank.trimmed error

def entriesOf (report : CheckReport) (tool : Tool) : List String :=
  ((report.errors tool).filter fun e => !Text.Blank.isBlankText e).map (entry tool)

def entries (report : CheckReport) : List String :=
  Tool.all.flatMap (entriesOf report)

def text? (report : CheckReport) : Option String :=
  match entries report with
  | [] => none
  | e :: es => some ("\n".intercalate (e :: es))

end QualityGate.ErrorList
