import QualityGate.Diagnostic.Issue
import QualityGate.Diagnostic.Report
import QualityGate.Diagnostic.Rule
import QualityGate.Error

namespace QualityGate

structure PolicySettings where
  lintDefaultFixable : Bool
  lintFixableRules : List String
  lintUnfixableRules : List String
deriving DecidableEq, Repr

namespace PolicySettings

def default : PolicySettings :=
  ⟨true, [], []⟩

instance : Inhabited PolicySettings :=
  ⟨default⟩

def form : Wire.Form PolicySettings :=
  .record "PolicyConfig"
    (.cons "lint_default_fixable" .flag (.defaultTo true)
      (.cons "lint_fixable_rules" (.list .text) (.defaultTo [])
        (.cons "lint_unfixable_rules" (.list .text) (.defaultTo []) .nil)))
    (fun (byDefault, fixable, unfixable, _) => ⟨byDefault, fixable, unfixable⟩)
    (fun p => (p.lintDefaultFixable, p.lintFixableRules, p.lintUnfixableRules, ()))
    (fun _ => rfl)

/-- The rules that are listed as fixable and as unfixable, in the order of the fixable ones. -/
def inBoth (p : PolicySettings) : List String :=
  p.lintFixableRules.filter fun r => p.lintUnfixableRules.contains r

end PolicySettings

def insertName (name : String) : List String → List String
  | [] => [name]
  | n :: ns =>
    if name < n then name :: n :: ns
    else if name = n then n :: ns
    else n :: insertName name ns

def sortNames (names : List String) : List String :=
  names.foldr insertName []

structure Policy where
  byDefault : Bool
  fixable : List String
  unfixable : List String
  disjoint : ∀ r ∈ fixable, r ∉ unfixable

namespace Policy

def default : Policy :=
  ⟨true, [], [], by simp⟩

instance : Inhabited Policy :=
  ⟨default⟩

def ofSettings (s : PolicySettings) : Except GateError Policy :=
  if h : ∀ r ∈ s.lintFixableRules, r ∉ s.lintUnfixableRules then
    .ok ⟨s.lintDefaultFixable, s.lintFixableRules, s.lintUnfixableRules, h⟩
  else .error (.invalidPolicy (sortNames s.inBoth))

def ruleFixable (p : Policy) (rule : String) : Bool :=
  if p.unfixable.contains rule then false
  else if p.fixable.contains rule then true
  else p.byDefault

def classify (p : Policy) (tool : Tool) (message : String) : String × Bool :=
  match tool with
  | .prettier => (Rule.prettier, true)
  | .eslint =>
    let rule := (Rule.trailing? message).getD Rule.eslintFallback
    (rule, p.ruleFixable rule)
  | .typescript => (Rule.typescript, false)

def issue (p : Policy) (file : String) (tool : Tool) (message : String) : Issue :=
  let (rule, fixable) := p.classify tool message
  ⟨rule, message, file, fixable⟩

def issues (p : Policy) (file : String) (report : CheckReport) : List Issue :=
  Tool.all.flatMap fun t => (report.errors t).map (p.issue file t)

/-- The outcome of a check that did not succeed, or of any check whose issues count. -/
def outcome (p : Policy) (file : String) (report : CheckReport) : CheckOutcome :=
  .ofIssues file (p.issues file report) (!report.success)

end Policy
end QualityGate
