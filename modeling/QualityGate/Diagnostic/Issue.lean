import QualityGate.Text.Blank
import QualityGate.Wire.Form

namespace QualityGate

/-- One finding of one tool. An issue is fixable if the tool's own repair is expected to remove
it. -/
structure Issue where
  rule : String
  message : String
  file : String
  fixable : Bool
deriving DecidableEq, Repr, Inhabited

/-- What is shown of an issue: its message, or its rule where the message is blank. -/
def Issue.displayText (i : Issue) : String :=
  if Text.Blank.isBlankText i.message then i.rule else i.message

structure CheckOutcome where
  filePath : String
  issues : List Issue
  hasErrors : Bool
  hasWarnings : Bool
  fixable : Bool
deriving DecidableEq, Repr, Inhabited

namespace CheckOutcome

/-- The outcome with the given issues: it has warnings if there are issues, and is fixable if one
of them is. -/
def ofIssues (filePath : String) (issues : List Issue) (hasErrors : Bool) : CheckOutcome :=
  ⟨filePath, issues, hasErrors, !issues.isEmpty, issues.any Issue.fixable⟩

def isClean (o : CheckOutcome) : Bool :=
  o.issues.isEmpty

end CheckOutcome

open Wire

def Issue.form : Form Issue :=
  .record "Issue"
    (.cons "rule" .text .required
      (.cons "message" .text .required
        (.cons "file" .text .required
          (.cons "fixable" .flag .required .nil))))
    (fun (rule, message, file, fixable, _) => ⟨rule, message, file, fixable⟩)
    (fun i => (i.rule, i.message, i.file, i.fixable, ()))
    (fun _ => rfl)

def CheckOutcome.form : Form CheckOutcome :=
  .record "CheckOutcome"
    (.cons "filePath" .text .required
      (.cons "issues" (.list Issue.form) .required
        (.cons "hasErrors" .flag .required
          (.cons "hasWarnings" .flag .required
            (.cons "fixable" .flag .required .nil)))))
    (fun (filePath, issues, hasErrors, hasWarnings, fixable, _) =>
      ⟨filePath, issues, hasErrors, hasWarnings, fixable⟩)
    (fun o => (o.filePath, o.issues, o.hasErrors, o.hasWarnings, o.fixable, ()))
    (fun _ => rfl)

end QualityGate
