import QualityGate.Proofs.Decision

namespace QualityGate

namespace Action

/-- The action for two lists of issues together, from those for each of them. -/
def join (a b : Action) : Action :=
  if a = .proceed then b
  else if b = .proceed then a
  else if a = b then a
  else .fixAndReport

def ofKinds (fixable unfixable : Bool) : Action :=
  match fixable, unfixable with
  | false, false => .proceed
  | true, false => .fixSilently
  | false, true => .reportOnly
  | true, true => .fixAndReport

theorem join_ofKinds (f u f' u' : Bool) :
    (ofKinds f u).join (ofKinds f' u') = ofKinds (f || f') (u || u') := by
  cases f <;> cases u <;> cases f' <;> cases u' <;> rfl

theorem ofKinds_eq_fixSilently_iff (f u : Bool) :
    ofKinds f u = .fixSilently ↔ f = true ∧ u = false := by
  cases f <;> cases u <;> decide

theorem ofKinds_eq_reportOnly_iff (f u : Bool) :
    ofKinds f u = .reportOnly ↔ f = false ∧ u = true := by
  cases f <;> cases u <;> decide

end Action

namespace Decision

/-- What a decision keeps of the issues it is about, and when it asks for a repair. -/
structure Keeps (d : Decision) (issues : List Issue) : Prop where
  sublist : d.issues.Sublist issues
  unfixable : d.issues.filter (!·.fixable) = issues.filter (!·.fixable)
  whole : d.action ≠ .fixAndReport → d.issues = issues
  rest : d.action = .fixAndReport → d.issues = issues.filter (!·.fixable)
  requiresFix : d.action.requiresFix = true ↔ ∃ i ∈ issues, i.fixable = true

theorem action_eq_ofKinds (issues : List Issue) :
    (ofIssues issues).action =
      .ofKinds (issues.any Issue.fixable) (issues.any (!·.fixable)) := by
  obtain ⟨rfl, he⟩ | ⟨hn, ha, he⟩ | ⟨hn, hu, he⟩ | ⟨hf, hu, he⟩ := ofIssues_cases issues
  · rfl
  · obtain ⟨i, hi⟩ := List.exists_mem_of_ne_nil issues hn
    have hf : issues.any Issue.fixable = true := List.any_eq_true.mpr ⟨i, hi, ha i hi⟩
    have hu : issues.any (!·.fixable) = false :=
      List.any_eq_false.mpr fun j hj => by simp [ha j hj]
    rw [he, hf, hu]
    rfl
  · obtain ⟨i, hi⟩ := List.exists_mem_of_ne_nil issues hn
    have hf : issues.any Issue.fixable = false :=
      List.any_eq_false.mpr fun j hj => by simp [hu j hj]
    have hu : issues.any (!·.fixable) = true := List.any_eq_true.mpr ⟨i, hi, by simp [hu i hi]⟩
    rw [he, hf, hu]
    rfl
  · have hf : issues.any Issue.fixable = true := List.any_eq_true.mpr hf
    have hu : issues.any (!·.fixable) = true := by simpa using hu
    rw [he, hf, hu]
    rfl

theorem action_append (xs ys : List Issue) :
    (ofIssues (xs ++ ys)).action = (ofIssues xs).action.join (ofIssues ys).action := by
  rw [action_eq_ofKinds, action_eq_ofKinds, action_eq_ofKinds, Action.join_ofKinds,
    List.any_append, List.any_append]

theorem action_congr {xs ys : List Issue} (h : ∀ i, i ∈ xs ↔ i ∈ ys) :
    (ofIssues xs).action = (ofIssues ys).action := by
  have ha : ∀ p : Issue → Bool, xs.any p = ys.any p := by
    intro p
    rw [Bool.eq_iff_iff, List.any_eq_true, List.any_eq_true]
    simp only [h]
  rw [action_eq_ofKinds, action_eq_ofKinds, ha, ha]

theorem keeps_whole {a : Action} {issues : List Issue} (ha : a ≠ .fixAndReport)
    (hr : a.requiresFix = true ↔ ∃ i ∈ issues, i.fixable = true) : Keeps ⟨a, issues⟩ issues :=
  ⟨List.Sublist.refl _, rfl, fun _ => rfl, fun h => absurd h ha, hr⟩

theorem keeps_ofIssues (issues : List Issue) : (ofIssues issues).Keeps issues := by
  have hr := requiresFix_iff issues
  obtain ⟨_, he⟩ | ⟨_, _, he⟩ | ⟨_, _, he⟩ | ⟨_, _, he⟩ := ofIssues_cases issues
  · rw [he] at hr ⊢
    exact keeps_whole nofun hr
  · rw [he] at hr ⊢
    exact keeps_whole nofun hr
  · rw [he] at hr ⊢
    exact keeps_whole nofun hr
  · rw [he] at hr ⊢
    exact ⟨List.filter_sublist, by simp, fun h => absurd rfl h, fun _ => rfl, hr⟩

/-- The action for two lists of issues together is the join of those for each of them, and that for
a list depends on which issues are in it alone. A decision keeps all issues or, where some are to be
repaired and some are not, those that are not. What else an outcome says makes no difference. -/
theorem ofOutcome_composes (xs ys : List Issue) (o p q : CheckOutcome) :
    (ofOutcome { q with issues := xs ++ ys }).action =
      (ofOutcome { o with issues := xs }).action.join (ofOutcome { p with issues := ys }).action ∧
    ((∀ i, i ∈ xs ↔ i ∈ ys) →
      (ofOutcome { o with issues := xs }).action = (ofOutcome { p with issues := ys }).action) ∧
    (ofOutcome { o with issues := xs }).Keeps xs :=
  ⟨action_append xs ys, action_congr, keeps_ofIssues xs⟩

def unflagged : CheckOutcome :=
  ⟨"f.ts", [], false, false, false⟩

def flagged : CheckOutcome :=
  ⟨"f.ts", [], true, true, true⟩

def missingSemicolon : Issue :=
  ⟨"semi", "3:1 Missing semicolon (semi)", "f.ts", true⟩

def notDefined : Issue :=
  ⟨"no-undef", "4:2 'x' is not defined (no-undef)", "f.ts", false⟩

theorem ofOutcome_composes_repeated :
    (∀ i, i ∈ [missingSemicolon, notDefined] ↔ i ∈ [notDefined, missingSemicolon, notDefined]) ∧
      (ofOutcome { unflagged with issues := [missingSemicolon, notDefined] }).action =
        (ofOutcome { flagged with issues := [notDefined, missingSemicolon, notDefined] }).action ∧
      (ofOutcome { unflagged with issues := [missingSemicolon, notDefined] }).action =
        .fixAndReport ∧
      (ofOutcome { unflagged with issues := [missingSemicolon, notDefined] }).issues =
        [notDefined] := by
  have hm : ∀ i, i ∈ [missingSemicolon, notDefined] ↔
      i ∈ [notDefined, missingSemicolon, notDefined] := by
    grind
  obtain ⟨-, hc, hk⟩ := ofOutcome_composes [missingSemicolon, notDefined]
    [notDefined, missingSemicolon, notDefined] unflagged flagged unflagged
  have ha : (ofOutcome { unflagged with issues := [missingSemicolon, notDefined] }).action =
      .fixAndReport := by
    decide
  exact ⟨hm, hc hm, ha, hk.rest ha⟩

end Decision
end QualityGate
