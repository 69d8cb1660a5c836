import QualityGate.Proofs.Diagnostic.Policy
import QualityGate.Proofs.Diagnostic.Rule
import QualityGate.Proofs.Report.Blocking
import QualityGate.Proofs.Report.ErrorList
import QualityGate.Proofs.Text.Blank

namespace QualityGate

open Text BlockingMessage

theorem Text.Blank.isBlankText_eq_false_iff (s : String) :
    Blank.isBlankText s = false ↔ ∃ c ∈ s.toList, Blank.isBlank c = false := by
  rw [Blank.isBlankText, List.all_eq_false]
  simp

/-- An error that fits on a line and does not hold the header of a list of issues. -/
structure PlainError (error : String) : Prop where
  no_feed : '\n' ∉ error.toList
  no_return : error.toList.getLast? ≠ some '\r'
  no_header : ¬ issuesHeader.toList <:+: error.toList

def CheckReport.Plain (report : CheckReport) : Prop :=
  ∀ tool, ∀ error ∈ report.errors tool, PlainError error

namespace PlainError

variable {error : String}

theorem listable (h : PlainError error) (hb : Blank.isBlankText error = false) :
    Listable error where
  no_feed := h.no_feed
  no_return := h.no_return
  shown := (isIssueLine_iff _).mpr ⟨(Blank.isBlankText_eq_false_iff _).mp hb, h.no_header⟩

theorem listable_entry (h : PlainError error) (tool : Tool) :
    Listable (ErrorList.entry tool error) := by
  have he := ErrorList.toList_entry tool error
  have ht := Blank.trim_infix error.toList
  refine ⟨ErrorList.not_mem_entry h.no_feed tool, ?_, ?_⟩
  · rw [he, List.getLast?_append]
    cases hr : (Blank.trim error.toList).getLast? with
    | none => cases tool <;> decide
    | some c =>
      have hc : Blank.isBlank c = false := Blank.not_blank_of_getLast?_trim hr
      rintro ⟨⟩
      exact absurd hc (by decide)
  · rw [isIssueLine_iff, he]
    refine ⟨⟨':', by simp, by decide⟩, ?_⟩
    have hh : issuesHeader.toList = '❌' :: " Quality issues found:".toList := by decide
    have hl : '❌' ∉ (tool.label ++ ": ").toList := by cases tool <;> decide
    rw [hh, Lines.infix_append_iff_of_not_mem hl, ← hh]
    exact fun hi => h.no_header (hi.trans ht)

end PlainError

theorem Policy.rule_of_blank (p : Policy) (file : String) (tool : Tool) {error : String}
    (h : Blank.isBlankText error = true) :
    (p.issue file tool error).rule ∈ [Rule.prettier, Rule.eslintFallback, Rule.typescript] := by
  cases tool with
  | prettier => exact List.mem_cons_self
  | eslint =>
    have hr : (p.issue file .eslint error).rule = Rule.eslintFallback := by
      simp [Policy.issue, Policy.classify, Rule.trailing?_of_blank h]
    simp [hr]
  | typescript =>
    have hr : (p.issue file .typescript error).rule = Rule.typescript := rfl
    simp [hr]

theorem listable_of_mem_rules {rule : String}
    (h : rule ∈ [Rule.prettier, Rule.eslintFallback, Rule.typescript]) : Listable rule := by
  simp only [List.mem_cons, List.not_mem_nil, or_false] at h
  rcases h with rfl | rfl | rfl <;> exact ⟨by decide, by decide, by decide⟩

theorem PlainError.listable_displayText {error : String} (h : PlainError error) (p : Policy)
    (file : String) (tool : Tool) : Listable (p.issue file tool error).displayText := by
  have hm : (p.issue file tool error).message = error := rfl
  by_cases hb : Blank.isBlankText error = true
  · rw [Issue.displayText, hm, if_pos hb]
    exact listable_of_mem_rules (p.rule_of_blank file tool hb)
  · rw [Issue.displayText, hm, if_neg hb]
    exact h.listable (by simpa using hb)

namespace CheckReport.Plain

variable {report : CheckReport}

theorem listable_issues (h : report.Plain) (p : Policy) (file : String) :
    ∀ i ∈ p.issues file report, Listable i.displayText := by
  intro i hi
  obtain ⟨tool, error, he, rfl⟩ := (Policy.mem_issues_iff ..).mp hi
  exact (h tool error he).listable_displayText p file tool

theorem listable_entries (h : report.Plain) : ∀ l ∈ ErrorList.entries report, Listable l := by
  intro l hl
  obtain ⟨tool, error, he, rfl⟩ := ErrorList.exists_of_mem_entries hl
  exact (h tool error he).listable_entry tool

end CheckReport.Plain

end QualityGate
