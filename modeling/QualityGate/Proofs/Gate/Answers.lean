import QualityGate.Proofs.Gate.Course

namespace QualityGate

open Recording Log

def checkTurns (file : String) (answer : Except GateError CheckReport) : List Turn :=
  [.checkCalled file, .checkReturned answer]

def fixTurns (file : String) (report : CheckReport) (answer : Except GateError FixResult) :
    List Turn :=
  [.fixCalled file report, .fixReturned answer]

/-- The repair is asked for with the report of the check, and the file is checked again only after
the repair. -/
def Answers.turns (file : String) (a : Answers) : List Turn :=
  checkTurns file a.first ++
    (match a.first, a.fix with
      | .ok report, some answer => fixTurns file report answer
      | _, _ => []) ++
    (match a.second with
      | some answer => checkTurns file answer
      | none => [])

/-- Of a check only its call and its answer are recorded. -/
def Answered : String → List Turn → Except GateError CheckReport → Prop :=
  fun file l answer => l = checkTurns file answer

/-- Of a repair only its call and its answer are recorded. -/
def Repaired : String → CheckReport → List Turn → Except GateError FixResult → Prop :=
  fun file report l answer => l = fixTurns file report answer

theorem Answers.Told.eq_turns {a : Answers} {file : String} {l : List Turn}
    (h : a.Told Answered Repaired file l) : l = a.turns file := by
  cases h with
  | unchecked hc =>
    subst hc
    rfl
  | checked hc hl =>
    subst hc
    cases hl with
    | nothing => rfl
    | repair hx =>
      subst hx
      rfl
    | recheck hx hc =>
      subst hx hc
      rfl

namespace Gate

variable {σ : Type}

section Recorded

variable {m : Type → Type} [Monad m] [LawfulMonad m] (g : Gate m) (file : String)

theorem records_recorded_check :
    Records (Answered file) (g.recorded.checker.check file) (g.checker.check file) := by
  refine (Checker.records_marked (C := fun _ l _ => l = []) file (.lift _)).mono
    fun l answer h => ?_
  obtain ⟨l', rfl, rfl⟩ := h
  rfl

theorem records_recorded_fix (report : CheckReport) :
    Records (Repaired file report) (g.recorded.fixer.fix file report)
      (g.fixer.fix file report) := by
  refine (Fixer.records_marked (F := fun _ _ l _ => l = []) file report (.lift _)).mono
    fun l answer h => ?_
  obtain ⟨l', rfl, rfl⟩ := h
  rfl

end Recorded

/-- The answers of a run tell its record and its course, and nothing else is changed by keeping the
record. -/
theorem exists_answers (g : Gate (WorldM σ)) (e : Errand) (w : World σ) :
    ∃ a : Answers, g.recorded.run e [] w = (((g.run e w).1, a.turns e.file), (g.run e w).2) ∧
      Course g e.file a (g.run e w).1 := by
  obtain ⟨l, ⟨a, hl, ha⟩, he⟩ :=
    (records_run g.records_recorded_check g.records_recorded_fix e).run_eq w
  rw [hl.eq_turns] at he
  exact ⟨a, he, ha⟩

theorem exists_evaluation (g : Gate (WorldM σ)) (e : Errand) (w : World σ) :
    ∃ answer, (g.evaluate e w).1 = answer.map (g.evaluation e.file) ∧
      g.recorded.evaluate e [] w =
        (((g.evaluate e w).1, checkTurns e.file answer), (g.evaluate e w).2) := by
  obtain ⟨l, ⟨answer, rfl, ha⟩, he⟩ := (records_evaluate g.records_recorded_check e).run_eq w
  exact ⟨answer, ha, he⟩

end Gate
end QualityGate
