import QualityGate.Gate.Scripted
import QualityGate.Proofs.Gate.Verdict

namespace QualityGate

open Log Recording

def Turn.call? : Turn → Option Call
  | .checkCalled _ => some .check
  | .fixCalled _ _ => some .fix
  | .checkReturned _ | .fixReturned _ | .performed _ _ => none

namespace Answers

variable {σ : Type}

/-- Only what is called for is asked: a repair of a report with a fixable issue that is no success,
and a second check after a repair that succeeded, if files are to be checked again. -/
structure Called (g : Gate (WorldM σ)) (file : String) (a : Answers) : Prop where
  fix_iff : a.fix.isSome = true ↔ ∃ report, a.first = .ok report ∧ report.success = false ∧
    ∃ i ∈ g.policy.issues file report, i.fixable = true
  second_iff : a.second.isSome = true ↔ a.fix = some (.ok ⟨true⟩) ∧ g.revalidate = true

/-- What is narrated of a repair, by its answer and by the status that the run ends with. -/
def repairNarration (file : String) (status : ExitStatus) :
    Except GateError FixResult → List Narration
  | .ok ⟨true⟩ => if status = .success then [.autoFixed file] else []
  | _ => [.autoFixFailed file]

theorem repairNarration_of_ne {file : String} {status : ExitStatus}
    {answer : Except GateError FixResult} (h : answer ≠ .ok ⟨true⟩) :
    repairNarration file status answer = [.autoFixFailed file] := by
  match answer, h with
  | .ok ⟨true⟩, h => exact absurd rfl h
  | .ok ⟨false⟩, _ => rfl
  | .error _, _ => rfl

/-- The narration of a run whose first check gave the report. -/
def narration (policy : Policy) (file : String) (report : CheckReport) (a : Answers)
    (status : ExitStatus) : List Narration :=
  if report.success then [.checksPassed file]
  else
    let issues := policy.issues file report
    .decided (Decision.ofIssues issues).action issues.length ::
      match a.fix with
      | none => []
      | some answer => .autoFixing file :: repairNarration file status answer

theorem calls_turns {g : Gate (WorldM σ)} {file : String} {a : Answers} (h : a.Called g file) :
    (a.turns file).filterMap Turn.call? ∈ [[.check], [.check, .fix], [.check, .fix, .check]] := by
  obtain ⟨first, fix, second⟩ := a
  have hs := h.second_iff
  cases fix with
  | none =>
    cases second with
    | none => cases first <;> exact .head _
    | some _ => simp at hs
  | some answer =>
    obtain ⟨report, rfl, _⟩ := h.fix_iff.mp rfl
    cases second with
    | none => exact .tail _ (.head _)
    | some _ => exact .tail _ (.tail _ (.head _))

end Answers

namespace Gate

variable {σ : Type} {g : Gate (WorldM σ)} {file : String} {report : CheckReport}
  {issues : List Issue} {d : Decision} {fix : Option (Except GateError FixResult)}
  {second : Option (Except GateError CheckReport)} {r : HookReport}

theorem Carried.fix_isSome_iff (h : Carried g file report issues d fix second r) :
    fix.isSome = true ↔ d.action.requiresFix = true := by
  cases h with
  | proceeds hd | reports hd => simp [hd, Action.requiresFix]
  | fails hd _ | clears hd _ _ | remains hd _ _ => simp [hd]
  | settles hd _ | leaves hd _ => simp [hd, Action.requiresFix]

theorem Carried.second_isSome_iff (h : Carried g file report issues d fix second r) :
    second.isSome = true ↔ fix = some (.ok ⟨true⟩) ∧ g.revalidate = true := by
  cases h with
  | proceeds _ | reports _ => simp
  | fails _ ha => simp [ha]
  | settles _ ht | leaves _ ht => cases ht <;> simp_all
  | clears _ hv _ | remains _ hv _ => simp [hv]

theorem Carried.decision_eq (h : Carried g file report issues d fix second r) :
    r.decision = some d := by
  cases h <;> rfl

theorem Carried.narration_eq (h : Carried g file report issues d fix second r) :
    r.narration = .decided d.action issues.length ::
      match fix with
      | none => []
      | some answer => .autoFixing file :: Answers.repairNarration file r.status answer := by
  cases h with
  | proceeds _ | reports _ | settles _ _ | leaves _ _ | clears _ _ _ | remains _ _ _ => rfl
  | fails _ ha => simp only [Answers.repairNarration_of_ne ha]

theorem Course.called {a : Answers} {result : Except GateError HookReport}
    (h : Course g file a result) : a.Called g file := by
  cases h with
  | unchecked e => exact ⟨by simp, by simp⟩
  | passed hs => exact ⟨by simp [hs], by simp⟩
  | decided hs hr =>
    refine ⟨?_, hr.second_isSome_iff⟩
    rw [hr.fix_isSome_iff, Decision.requiresFix_iff]
    simp [hs]

theorem Course.narration_eq {a : Answers} (h : Course g file a (.ok r)) :
    ∃ report, a.first = .ok report ∧
      r.narration = a.narration g.policy file report r.status := by
  cases h with
  | passed hs => exact ⟨_, rfl, by simp [Answers.narration, hs]⟩
  | decided hs hr => exact ⟨_, rfl, by simp [Answers.narration, hs, hr.narration_eq]⟩

theorem decision_carryOut (g : Gate (WorldM σ)) (file : String) (report : CheckReport)
    (d : Decision) (w : World σ) :
    (g.carryOut file (g.evaluation file report) d w).1.decision = some d := by
  have h : Records _ (g.recorded.carryOut file (g.evaluation file report) d) _ :=
    records_carryOut g.records_recorded_check g.records_recorded_fix file report d
  obtain ⟨l, ⟨fix, second, _, hr⟩, _⟩ := h.run_eq w
  exact hr.decision_eq

theorem map_decision_process (g : Gate (WorldM σ)) (file : String) (w : World σ) :
    (g.process file w).1.map HookReport.decision =
      (g.assess file w).1.map Evaluation.decision := by
  have h : Records _ (g.recorded.assess file) _ := records_assess g.records_recorded_check file
  obtain ⟨l, ⟨answer, _, ha⟩, _⟩ := h.run_eq w
  have hb (k : Except GateError Evaluation → WorldM σ (Except GateError HookReport)) :
      (g.assess file >>= k) w = k (g.assess file w).1 (g.assess file w).2 := rfl
  rw [process, hb, ha]
  cases answer with
  | error e => rfl
  | ok report =>
    simp only [Except.map]
    cases hd : (g.evaluation file report).decision with
    | none => rfl
    | some d => exact congrArg Except.ok (g.decision_carryOut file report d _)

/-- A run asks for one check, then for a repair if the report of the check has a fixable issue, and
for a second check if the repair succeeds and the gate checks again. It narrates these steps, and an
evaluation takes the first of them and decides the same. -/
theorem run_protocol (g : Gate (WorldM σ)) (e : Errand) (w : World σ) :
    (∃ a : Answers, g.recorded.run e [] w = (((g.run e w).1, a.turns e.file), (g.run e w).2) ∧
      (a.turns e.file).filterMap Turn.call? ∈ [[.check], [.check, .fix], [.check, .fix, .check]] ∧
      a.Called g e.file ∧
      ∀ r, (g.run e w).1 = .ok r → ∃ report, a.first = .ok report ∧
        r.narration = a.narration g.policy e.file report r.status) ∧
    (∃ answer, g.recorded.evaluate e [] w =
      (((g.evaluate e w).1, checkTurns e.file answer), (g.evaluate e w).2)) ∧
    (g.evaluate e w).1.map Evaluation.decision = (g.run e w).1.map HookReport.decision := by
  obtain ⟨a, he, hc⟩ := g.exists_answers e w
  obtain ⟨answer, _, hx⟩ := g.exists_evaluation e w
  refine ⟨⟨a, he, Answers.calls_turns hc.called, hc.called, fun r hr => ?_⟩, ⟨answer, hx⟩,
    (g.map_decision_process e.file _).symm⟩
  rw [hr] at hc
  exact hc.narration_eq

end Gate
end QualityGate
