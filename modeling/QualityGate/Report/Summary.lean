import QualityGate.Decision
import QualityGate.Text.Digits

namespace QualityGate

structure CheckSummary where
  file : String
  action : Option Action
  issues : List Issue
  blocking : Option String
  exitCode : Int32
deriving DecidableEq, Repr

inductive Colour
  | red
  | green
  | yellow
  | cyan

def Colour.code : Colour → String
  | red => "31"
  | green => "32"
  | yellow => "33"
  | cyan => "36"

def select (code : String) : String :=
  "\x1b[" ++ code ++ "m"

def paint (colours : Bool) (c : Colour) (s : String) : String :=
  if colours then select c.code ++ s ++ select "0" else s

namespace CheckSummary

def form : Wire.Form CheckSummary :=
  .record "CheckOutput"
    (.cons "file" .text .required
      (.cons "action" (.optional Action.form) .required
        (.cons "issues" (.list Issue.form) .required
          (.cons "blocking" (.optional .text) .required
            (.cons "exit_code" .int32 .required .nil)))))
    (fun (file, action, issues, blocking, exitCode, _) =>
      ⟨file, action, issues, blocking, exitCode⟩)
    (fun s => (s.file, s.action, s.issues, s.blocking, s.exitCode, ()))
    (fun _ => rfl)

def issueLine (colours : Bool) (i : Issue) : String :=
  let mark := if i.fixable then paint colours .green "fixable" else paint colours .yellow "manual"
  "  - [" ++ mark ++ "] " ++ i.displayText

def headline (colours : Bool) : Option Action → String
  | some action => "Decision: " ++ paint colours .cyan action.name
  | none => paint colours .green "✓" ++ " All quality checks passed"

def human (colours : Bool) (s : CheckSummary) : String :=
  let issues :=
    if s.issues.isEmpty then []
    else ("\nIssues (" ++ Text.Digits.decimal s.issues.length ++ "):") ::
      s.issues.map (issueLine colours)
  let blocking := match s.blocking with
    | some text => ["", String.ofList (Text.Blank.trimEnd text.toList)]
    | none => []
  "\n".intercalate (["File: " ++ s.file, headline colours s.action] ++ issues ++ blocking)

def json (s : CheckSummary) : Json :=
  form.encode s

end CheckSummary
end QualityGate
