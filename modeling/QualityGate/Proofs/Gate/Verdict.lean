import QualityGate.Proofs.Diagnostic.Policy
import QualityGate.Proofs.Gate.Answers

namespace QualityGate

open Log

def CheckReport.Clean (report : CheckReport) : Prop :=
  report.success = true ∨ report.Silent

theorem Gate.counted_eq_nil_iff {m : Type → Type} (g : Gate m) (file : String)
    (report : CheckReport) : g.counted file report = [] ↔ report.Clean := by
  cases hs : report.success with
  | true => simp [counted, CheckReport.Clean, hs]
  | false => simp [counted, CheckReport.Clean, hs, Policy.issues_eq_nil_iff]

/-- The repair of a file with the given issues settles all of them: the file is found clean
afterwards or, where that is not found out, all of the issues were fixable. -/
def Answers.Settles (a : Answers) (revalidate : Bool) (issues : List Issue) : Prop :=
  (∃ i ∈ issues, i.fixable = true) ∧ a.fix = some (.ok ⟨true⟩) ∧
    (revalidate = true ∧ (∃ report, a.second = some (.ok report) ∧ report.Clean) ∨
      (revalidate = false ∨ ∃ e, a.second = some (.error e)) ∧ ∀ i ∈ issues, i.fixable = true)

namespace Gate

variable {σ : Type} {g : Gate (WorldM σ)} {file : String} {a : Answers}
  {report : CheckReport}

/-- The end of a run whose first check gave the report, but for the words that are said. -/
structure Verdict (g : Gate (WorldM σ)) (file : String) (a : Answers) (report : CheckReport)
    (r : HookReport) : Prop where
  success_iff : r.status = .success ↔
    report.success = true ∨ report.success = false ∧ report.Silent ∨
      a.Settles g.revalidate (g.policy.issues file report)
  never_error : r.status ≠ .error
  blocking_iff : r.blocking.isSome = true ↔ r.status = .qualityIssues
  decision_eq : r.decision =
    if report.success then none else some (.ofIssues (g.policy.issues file report))

theorem Verdict.of_settled {narration : List Narration} (hs : report.success = false)
    (h : report.Silent ∨ a.Settles g.revalidate (g.policy.issues file report)) :
    Verdict g file a report
      ⟨.success, narration, none, some (.ofIssues (g.policy.issues file report))⟩ where
  success_iff := by simp [hs, h]
  never_error := by simp
  blocking_iff := by simp
  decision_eq := by simp [hs]

theorem Verdict.of_unsettled {narration : List Narration} {message : BlockingMessage}
    (hs : report.success = false) (hn : ¬report.Silent)
    (h : ¬a.Settles g.revalidate (g.policy.issues file report)) :
    Verdict g file a report
      ⟨.qualityIssues, narration, some message,
        some (.ofIssues (g.policy.issues file report))⟩ where
  success_iff := by simp [hs, hn, h]
  never_error := by simp
  blocking_iff := by simp
  decision_eq := by simp [hs]

theorem Carried.verdict {fix : Option (Except GateError FixResult)}
    {second : Option (Except GateError CheckReport)} {r : HookReport}
    (hs : report.success = false)
    (h : Carried g file report (g.policy.issues file report)
      (.ofIssues (g.policy.issues file report)) fix second r) :
    Verdict g file ⟨.ok report, fix, second⟩ report r := by
  have hsilent : report.Silent ↔
      (Decision.ofIssues (g.policy.issues file report)).action = .proceed := by
    rw [Decision.action_eq_proceed_iff, Policy.issues_eq_nil_iff]
  cases h with
  | proceeds hd => exact .of_settled hs (.inl (hsilent.mpr hd))
  | reports hd =>
    refine .of_unsettled hs (by simp [hsilent, hd]) fun h => ?_
    simpa using h.2.1
  | fails hd ha =>
    refine .of_unsettled hs (hsilent.not.mpr fun hp => ?_) fun h => ?_
    · simp [hp, Action.requiresFix] at hd
    · exact ha (Option.some.inj h.2.1)
  | settles hd ht =>
    have hf := (Decision.requiresFix_iff _).mp (by rw [hd]; rfl)
    have ha := Decision.all_fixable_of_fixSilently hd
    cases ht with
    | unasked hv => exact .of_settled hs (.inr ⟨hf, rfl, .inr ⟨.inl hv, ha⟩⟩)
    | unanswered hv => exact .of_settled hs (.inr ⟨hf, rfl, .inr ⟨.inr ⟨_, rfl⟩, ha⟩⟩)
  | leaves hd ht =>
    -- only a second check could clear the issue that is left, and none was answered
    obtain ⟨i, hi, hu⟩ := Decision.exists_unfixable_of_fixAndReport hd
    refine .of_unsettled hs (by simp [hsilent, hd]) fun h => ?_
    obtain ⟨_, ⟨report', h, _⟩⟩ | ⟨_, h⟩ := h.2.2
    · subst h
      cases ht
    · simp [h i hi] at hu
  | clears hd hv hn =>
    have hf := (Decision.requiresFix_iff _).mp hd
    have hr := (g.counted_eq_nil_iff file _).mp hn
    exact .of_settled hs (.inr ⟨hf, rfl, .inl ⟨hv, _, rfl, hr⟩⟩)
  | remains hd hv hn =>
    refine .of_unsettled hs (hsilent.not.mpr fun hp => ?_) fun h => ?_
    · simp [hp, Action.requiresFix] at hd
    · obtain ⟨_, ⟨_, h, hr⟩⟩ | ⟨hv' | ⟨_, h⟩, _⟩ := h.2.2
      · cases h
        exact hn ((g.counted_eq_nil_iff file _).mpr hr)
      · simp [hv] at hv'
      · cases h

/-- A run fails as its first check fails, and otherwise it ends with the verdict on the answers of
its collaborators. -/
theorem run_verdict (g : Gate (WorldM σ)) (e : Errand) (w : World σ) :
    ∃ a : Answers, g.recorded.run e [] w = (((g.run e w).1, a.turns e.file), (g.run e w).2) ∧
      (∀ err, (g.run e w).1 = .error err ↔ a.first = .error err) ∧
      ∀ report, a.first = .ok report →
        ∃ r, (g.run e w).1 = .ok r ∧ Verdict g e.file a report r := by
  obtain ⟨a, he, hc⟩ := g.exists_answers e w
  refine ⟨a, he, ?_⟩
  generalize (g.run e w).1 = result at hc
  cases hc with
  | unchecked err => exact ⟨by simp, by simp⟩
  | passed hs =>
    refine ⟨by simp, fun report hr => ⟨_, rfl, ?_⟩⟩
    cases hr
    exact ⟨by simp [hs], by simp, by simp, by simp [hs]⟩
  | decided hs hr =>
    refine ⟨by simp, fun report h => ⟨_, rfl, ?_⟩⟩
    cases h
    exact hr.verdict hs

end Gate
end QualityGate
