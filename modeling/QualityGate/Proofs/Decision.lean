import QualityGate.Decision

namespace QualityGate

namespace Action

theorem eq_fixSilently {a : Action} (hr : a.requiresFix = true) (ha : a ≠ .fixAndReport) :
    a = .fixSilently := by
  cases a <;> simp_all [requiresFix]

theorem eq_proceed {a : Action} (hr : ¬a.requiresFix = true) (ha : a ≠ .reportOnly) :
    a = .proceed := by
  cases a <;> simp_all [requiresFix]

end Action

namespace Decision

theorem ofIssues_eq (issues : List Issue) :
    ofIssues issues =
      if issues.isEmpty then ⟨.proceed, []⟩
      else if issues.all Issue.fixable then ⟨.fixSilently, issues⟩
      else if issues.any Issue.fixable then ⟨.fixAndReport, issues.filter (!·.fixable)⟩
      else ⟨.reportOnly, issues⟩ := by
  have hall : (issues.filter Issue.fixable).length = issues.length ↔
      issues.all Issue.fixable = true := by
    rw [List.length_filter_eq_length_iff, List.all_eq_true]
  have hany : (issues.filter Issue.fixable).length = 0 ↔ ¬ issues.any Issue.fixable = true := by
    rw [List.length_eq_zero_iff, List.filter_eq_nil_iff, List.any_eq_true]
    simp
  simp only [ofIssues, hall, hany, ite_not]

theorem ofIssues_cases (issues : List Issue) :
    issues = [] ∧ ofIssues issues = ⟨.proceed, issues⟩ ∨
    issues ≠ [] ∧ (∀ i ∈ issues, i.fixable = true) ∧ ofIssues issues = ⟨.fixSilently, issues⟩ ∨
    issues ≠ [] ∧ (∀ i ∈ issues, i.fixable = false) ∧ ofIssues issues = ⟨.reportOnly, issues⟩ ∨
    (∃ i ∈ issues, i.fixable = true) ∧ (∃ i ∈ issues, i.fixable = false) ∧
      ofIssues issues = ⟨.fixAndReport, issues.filter (!·.fixable)⟩ := by
  rw [ofIssues_eq]
  by_cases hn : issues = []
  · subst hn
    exact .inl ⟨rfl, rfl⟩
  · rw [if_neg (by simpa using hn)]
    by_cases ha : issues.all Issue.fixable = true
    · exact .inr (.inl ⟨hn, by simpa using ha, if_pos ha⟩)
    · have hu : ∃ i ∈ issues, i.fixable = false := by simpa using ha
      rw [if_neg ha]
      by_cases hf : issues.any Issue.fixable = true
      · exact .inr (.inr (.inr ⟨by simpa using hf, hu, if_pos hf⟩))
      · exact .inr (.inr (.inl ⟨hn, by simpa using hf, if_neg hf⟩))

theorem action_eq_proceed_iff (issues : List Issue) :
    (ofIssues issues).action = .proceed ↔ issues = [] := by
  obtain ⟨rfl, _⟩ | ⟨hn, _, he⟩ | ⟨hn, _, he⟩ | ⟨⟨i, hi, _⟩, _, he⟩ := ofIssues_cases issues
  · simp [ofIssues]
  · simp [he, hn]
  · simp [he, hn]
  · simp [he, List.ne_nil_of_mem hi]

theorem requiresFix_iff (issues : List Issue) :
    (ofIssues issues).action.requiresFix = true ↔ ∃ i ∈ issues, i.fixable = true := by
  obtain ⟨rfl, _⟩ | ⟨hn, ha, he⟩ | ⟨_, hu, he⟩ | ⟨hf, _, he⟩ := ofIssues_cases issues
  · simp [ofIssues, Action.requiresFix]
  · obtain ⟨i, hi⟩ := List.exists_mem_of_ne_nil issues hn
    simpa [he, Action.requiresFix] using ⟨i, hi, ha i hi⟩
  · simpa [he, Action.requiresFix] using hu
  · simpa [he, Action.requiresFix] using hf

theorem all_fixable_of_fixSilently {issues : List Issue}
    (h : (ofIssues issues).action = .fixSilently) : ∀ i ∈ issues, i.fixable = true := by
  obtain ⟨_, he⟩ | ⟨_, ha, _⟩ | ⟨_, _, he⟩ | ⟨_, _, he⟩ := ofIssues_cases issues
  · simp [he] at h
  · exact ha
  · simp [he] at h
  · simp [he] at h

theorem exists_unfixable_of_fixAndReport {issues : List Issue}
    (h : (ofIssues issues).action = .fixAndReport) : ∃ i ∈ issues, i.fixable = false := by
  obtain ⟨_, he⟩ | ⟨_, _, he⟩ | ⟨_, _, he⟩ | ⟨_, hu, _⟩ := ofIssues_cases issues
  · simp [he] at h
  · simp [he] at h
  · simp [he] at h
  · exact hu

theorem issues_of_reportOnly {issues : List Issue}
    (h : (ofIssues issues).action = .reportOnly) : (ofIssues issues).issues = issues := by
  obtain ⟨_, he⟩ | ⟨_, _, he⟩ | ⟨_, _, he⟩ | ⟨_, _, he⟩ := ofIssues_cases issues
  · simp [he] at h
  · simp [he] at h
  · rw [he]
  · simp [he] at h

theorem issues_of_ne_fixSilently {issues : List Issue}
    (h : (ofIssues issues).action ≠ .fixSilently) :
    (ofIssues issues).issues = issues.filter (!·.fixable) := by
  obtain ⟨rfl, he⟩ | ⟨_, _, he⟩ | ⟨_, hu, he⟩ | ⟨_, _, he⟩ := ofIssues_cases issues
  · rw [he, List.filter_nil]
  · simp [he] at h
  · rw [he, List.filter_eq_self.mpr fun i hi => by simp [hu i hi]]
  · rw [he]

end Decision
end QualityGate
