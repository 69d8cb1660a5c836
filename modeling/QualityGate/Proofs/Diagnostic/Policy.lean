import QualityGate.Diagnostic.Policy

namespace QualityGate

def CheckReport.Silent (report : CheckReport) : Prop :=
  ∀ t, report.errors t = []

namespace Policy

theorem mem_issues_iff (p : Policy) (file : String) (report : CheckReport) (i : Issue) :
    i ∈ p.issues file report ↔ ∃ t, ∃ e ∈ report.errors t, p.issue file t e = i := by
  simp [issues, Tool.mem_all]

theorem issues_eq_nil_iff (p : Policy) (file : String) (report : CheckReport) :
    p.issues file report = [] ↔ report.Silent := by
  simp [issues, CheckReport.Silent, Tool.mem_all]

theorem map_message_issue (p : Policy) (file : String) (tool : Tool) (errors : List String) :
    (errors.map (p.issue file tool)).map Issue.message = errors := by
  rw [List.map_map]
  exact List.map_id errors

end Policy
end QualityGate
