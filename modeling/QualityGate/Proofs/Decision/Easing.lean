import Mathlib.Data.List.Forall2
import QualityGate.Proofs.Decision.Composition
import QualityGate.Proofs.Diagnostic.Policy

namespace QualityGate

namespace Issue

/-- The same finding, and still fixable if it was before. -/
structure Eased (i j : Issue) : Prop where
  rule : i.rule = j.rule
  message : i.message = j.message
  file : i.file = j.file
  fixable : i.fixable = true → j.fixable = true

variable {i j : Issue}

theorem Eased.refl (i : Issue) : i.Eased i :=
  ⟨rfl, rfl, rfl, id⟩

theorem Eased.eq_of_unfixable (h : i.Eased j) (hj : j.fixable = false) : i = j := by
  obtain ⟨rule, message, file, fixable⟩ := i
  obtain ⟨rfl, rfl, rfl, hf⟩ := h
  have hi : fixable = false := by
    by_contra hc
    rw [hf (by simpa using hc)] at hj
    cases hj
  rw [hi, ← hj]

end Issue

namespace Decision

variable {xs ys : List Issue}

theorem any_fixable_of_eased (h : List.Forall₂ Issue.Eased xs ys)
    (hx : xs.any Issue.fixable = true) : ys.any Issue.fixable = true := by
  induction h with
  | nil => exact hx
  | cons hi _ ih =>
    simp only [List.any_cons, Bool.or_eq_true] at hx ⊢
    exact hx.imp hi.fixable ih

theorem filter_sublist_of_eased (h : List.Forall₂ Issue.Eased xs ys) :
    (ys.filter (!·.fixable)).Sublist (xs.filter (!·.fixable)) := by
  induction h with
  | nil => exact List.Sublist.refl _
  | @cons i j xs ys hi _ ih =>
    by_cases hj : j.fixable = true
    · rw [List.filter_cons_of_neg (by simp [hj])]
      exact ih.trans ((List.sublist_cons_self i xs).filter _)
    · have he : i = j := hi.eq_of_unfixable (by simpa using hj)
      rw [he, List.filter_cons_of_pos (by simp [hj]), List.filter_cons_of_pos (by simp [hj])]
      exact ih.cons_cons j

theorem any_unfixable_of_eased (h : List.Forall₂ Issue.Eased xs ys)
    (hy : ys.any (!·.fixable) = true) : xs.any (!·.fixable) = true := by
  obtain ⟨i, hi, hu⟩ := List.any_eq_true.mp hy
  have hm := (filter_sublist_of_eased h).subset (List.mem_filter.mpr ⟨hi, hu⟩)
  exact List.any_eq_true.mpr ⟨i, List.mem_filter.mp hm⟩

theorem action_fixSilently_of_eased (h : List.Forall₂ Issue.Eased xs ys)
    (ha : (ofIssues xs).action = .fixSilently) : (ofIssues ys).action = .fixSilently := by
  rw [action_eq_ofKinds, Action.ofKinds_eq_fixSilently_iff] at ha ⊢
  refine ⟨any_fixable_of_eased h ha.1, ?_⟩
  rw [← Bool.not_eq_true] at ha ⊢
  exact fun hy => ha.2 (any_unfixable_of_eased h hy)

theorem action_reportOnly_of_eased (h : List.Forall₂ Issue.Eased xs ys)
    (ha : (ofIssues ys).action = .reportOnly) : (ofIssues xs).action = .reportOnly := by
  rw [action_eq_ofKinds, Action.ofKinds_eq_reportOnly_iff] at ha ⊢
  refine ⟨?_, any_unfixable_of_eased h ha.2⟩
  rw [← Bool.not_eq_true] at ha ⊢
  exact fun hx => ha.1 (any_fixable_of_eased h hx)

end Decision

namespace Policy

/-- Every rule that is fixable under the first policy is fixable under the second. -/
def Stricter (p q : Policy) : Prop :=
  ∀ rule, p.ruleFixable rule = true → q.ruleFixable rule = true

/-- Two lists of issues of a report that differ in flags of the linter's issues at most. -/
inductive Relaxed (report : CheckReport) : List Issue → List Issue → Prop
  | mk {style lint lint' types : List Issue}
      (hs : style.map Issue.message = report.errors .prettier)
      (hl : lint.map Issue.message = report.errors .eslint)
      (ht : types.map Issue.message = report.errors .typescript)
      (he : List.Forall₂ Issue.Eased lint lint') :
      Relaxed report (style ++ lint ++ types) (style ++ lint' ++ types)

/-- What the second policy makes of a report, next to what the first one does. -/
structure Loosens (p q : Policy) (file : String) (report : CheckReport) : Prop where
  relaxed : Relaxed report (p.issues file report) (q.issues file report)
  eased : List.Forall₂ Issue.Eased (p.issues file report) (q.issues file report)
  unfixable : ((q.issues file report).filter (!·.fixable)).Sublist
    ((p.issues file report).filter (!·.fixable))
  silently : (Decision.ofOutcome (p.outcome file report)).action = .fixSilently →
    (Decision.ofOutcome (q.outcome file report)).action = .fixSilently
  reported : (Decision.ofOutcome (q.outcome file report)).action = .reportOnly →
    (Decision.ofOutcome (p.outcome file report)).action = .reportOnly

variable {p q : Policy} {file : String} {report : CheckReport}

theorem issues_eq (p : Policy) (file : String) (report : CheckReport) :
    p.issues file report = (report.errors .prettier).map (p.issue file .prettier) ++
      (report.errors .eslint).map (p.issue file .eslint) ++
      (report.errors .typescript).map (p.issue file .typescript) := by
  simp [issues, Tool.all]

theorem Stricter.eased_issue (h : p.Stricter q) (file message : String) :
    (p.issue file .eslint message).Eased (q.issue file .eslint message) :=
  ⟨rfl, rfl, rfl, h _⟩

theorem Stricter.relaxed (h : p.Stricter q) (file : String) (report : CheckReport) :
    Relaxed report (p.issues file report) (q.issues file report) := by
  have he : List.Forall₂ Issue.Eased ((report.errors .eslint).map (p.issue file .eslint))
      ((report.errors .eslint).map (q.issue file .eslint)) := by
    rw [List.forall₂_map_left_iff, List.forall₂_map_right_iff, List.forall₂_same]
    exact fun message _ => h.eased_issue file message
  rw [p.issues_eq, q.issues_eq]
  exact .mk (p.map_message_issue ..) (p.map_message_issue ..) (p.map_message_issue ..) he

theorem Relaxed.eased {xs ys : List Issue} (h : Relaxed report xs ys) :
    List.Forall₂ Issue.Eased xs ys := by
  cases h with
  | mk hs hl ht he =>
    have hr : ∀ is : List Issue, List.Forall₂ Issue.Eased is is :=
      fun is => List.forall₂_same.mpr fun i _ => .refl i
    exact List.rel_append (List.rel_append (hr _) he) (hr _)

theorem Stricter.loosens (h : p.Stricter q) (file : String) (report : CheckReport) :
    Loosens p q file report := by
  have hr := h.relaxed file report
  exact ⟨hr, hr.eased, Decision.filter_sublist_of_eased hr.eased,
    Decision.action_fixSilently_of_eased hr.eased, Decision.action_reportOnly_of_eased hr.eased⟩

theorem issues_congr (h : report.errors .eslint = []) (p q : Policy) (file : String) :
    p.issues file report = q.issues file report := by
  rw [p.issues_eq, q.issues_eq, h]
  rfl

/-- Under the less strict of two policies a report comes to the same issues, of which some more of
the linter's may be fixable; so there is no more to do by hand. Without errors of the linter no two
policies differ. -/
theorem outcome_loosens (p q : Policy) (file : String) (report : CheckReport) :
    (p.Stricter q → Loosens p q file report) ∧
    (report.errors .eslint = [] → p.outcome file report = q.outcome file report ∧
      Decision.ofOutcome (p.outcome file report) = Decision.ofOutcome (q.outcome file report)) := by
  refine ⟨fun h => h.loosens file report, fun h => ?_⟩
  have ho : p.outcome file report = q.outcome file report := by
    rw [outcome, outcome, issues_congr h p q]
  exact ⟨ho, congrArg Decision.ofOutcome ho⟩

def namedOnly : Policy :=
  ⟨false, ["semi"], ["no-undef"], by simp⟩

def unlessNamed : Policy :=
  ⟨true, [], ["no-undef"], by simp⟩

def reportOf (style lint types : List String) : CheckReport :=
  ⟨false, ⟨some ⟨style⟩, some ⟨lint⟩, some ⟨types⟩⟩⟩

theorem outcome_loosens_namedOnly :
    namedOnly.Stricter unlessNamed ∧
      (Decision.ofOutcome (namedOnly.outcome "f.ts" (reportOf ["a"] ["b (semi)"] []))).action =
        .fixSilently ∧
      (Decision.ofOutcome (unlessNamed.outcome "f.ts" (reportOf ["a"] ["b (semi)"] []))).action =
        .fixSilently ∧
      (Decision.ofOutcome (unlessNamed.outcome "f.ts"
        (reportOf [] ["b (no-undef)"] ["c"]))).action = .reportOnly ∧
      (Decision.ofOutcome (namedOnly.outcome "f.ts" (reportOf [] ["b (no-undef)"] ["c"]))).action =
        .reportOnly ∧
      (reportOf ["a"] [] ["c"]).errors .eslint = [] ∧
      namedOnly.outcome "f.ts" (reportOf ["a"] [] ["c"]) =
        unlessNamed.outcome "f.ts" (reportOf ["a"] [] ["c"]) := by
  have hs : namedOnly.Stricter unlessNamed := by
    intro rule h
    simp_all [ruleFixable, namedOnly, unlessNamed]
  have hf : (Decision.ofOutcome
      (namedOnly.outcome "f.ts" (reportOf ["a"] ["b (semi)"] []))).action = .fixSilently := by
    decide
  have hr : (Decision.ofOutcome
      (unlessNamed.outcome "f.ts" (reportOf [] ["b (no-undef)"] ["c"]))).action = .reportOnly := by
    decide
  have he : (reportOf ["a"] [] ["c"]).errors .eslint = [] := rfl
  refine ⟨hs, hf, ?_, hr, ?_, he, ?_⟩
  · exact ((outcome_loosens namedOnly unlessNamed _ _).1 hs).silently hf
  · exact ((outcome_loosens namedOnly unlessNamed _ _).1 hs).reported hr
  · exact ((outcome_loosens namedOnly unlessNamed "f.ts" _).2 he).1

end Policy
end QualityGate
