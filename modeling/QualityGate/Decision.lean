import QualityGate.Diagnostic.Issue

namespace QualityGate

inductive Action
  /-- Every issue is fixable: repair without a word. -/
  | fixSilently
  /-- There is nothing to do. -/
  | proceed
  /-- No issue is fixable: report all. -/
  | reportOnly
  /-- Repair what is fixable and report the rest. -/
  | fixAndReport
deriving DecidableEq, Repr, Inhabited

namespace Action

def all : List Action :=
  [fixSilently, .proceed, reportOnly, fixAndReport]

def name : Action → String
  | fixSilently => "FIX_SILENTLY"
  | .proceed => "CONTINUE"
  | reportOnly => "REPORT_ONLY"
  | fixAndReport => "FIX_AND_REPORT"

def requiresFix : Action → Bool
  | fixSilently | fixAndReport => true
  | .proceed | reportOnly => false

def form : Wire.Form Action :=
  .oneOf all name (by intro a; cases a <;> decide)

end Action

/-- An action, and the issues that need attention with it. -/
structure Decision where
  action : Action
  issues : List Issue
deriving DecidableEq, Repr, Inhabited

namespace Decision

def reasoning (d : Decision) : String :=
  if d.issues.isEmpty then "No specific reasoning"
  else ", ".intercalate (d.issues.map Issue.rule)

/-- Issues that are all fixable are repaired silently, issues none of which is fixable are
reported, and of others only the unfixable ones need attention. -/
def ofIssues (issues : List Issue) : Decision :=
  let fixableCount := (issues.filter Issue.fixable).length
  if issues.isEmpty then ⟨.proceed, []⟩
  else if fixableCount = issues.length then ⟨.fixSilently, issues⟩
  else if fixableCount = 0 then ⟨.reportOnly, issues⟩
  else ⟨.fixAndReport, issues.filter (!·.fixable)⟩

def ofOutcome (o : CheckOutcome) : Decision :=
  ofIssues o.issues

def form : Wire.Form Decision :=
  .record "Decision"
    (.cons "action" Action.form .required
      (.cons "issues" (.list Issue.form) .required .nil))
    (fun (action, issues, _) => ⟨action, issues⟩)
    (fun d => (d.action, d.issues, ()))
    (fun _ => rfl)

end Decision
end QualityGate
