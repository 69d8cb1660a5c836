import QualityGate.Gate.Guard
import QualityGate.Proofs.Gate.Answers

namespace QualityGate.Gate

open Log Recording

variable {m : Type → Type} {g : Gate m} {file : String} {report : CheckReport}
  {issues : List Issue} {d : Decision} {fix : Option (Except GateError FixResult)}
  {second : Option (Except GateError CheckReport)} {r : HookReport}

theorem Carried.status_ne_error (h : Carried g file report issues d fix second r) :
    r.status ≠ .error := by
  cases h <;> exact nofun

theorem Course.status_ne_error {a : Answers} (h : Course g file a (.ok r)) :
    r.status ≠ .error := by
  cases h with
  | passed _ => exact nofun
  | decided _ hr => exact hr.status_ne_error

variable [Monad m] [LawfulMonad m] [Journal m] [LawfulJournal m]

omit [LawfulJournal m] in
theorem forgive_status_ne_error (feedback : Bool) (correlationId fault : String) :
    Yields (fun x => x.1 ≠ .error) (forgive (m := m) feedback correlationId fault) :=
  .bind fun _ => .pure nofun

theorem guard_status_ne_error (g : Gate (Fragile m)) (feedback : Bool) (task : String)
    (notice : Breakdown → String) (e : Errand) :
    Yields (fun x => x.1 ≠ .error) (g.guard (m := m) feedback task notice e) := by
  have hr : Records _ (g.recorded.run e) (g.run e) :=
    records_run g.records_recorded_check g.records_recorded_fix e
  refine hr.yields.run.bind_of fun result hok => ?_
  match result with
  | .ok (.ok report) =>
    obtain ⟨l, a, -, hc⟩ := hok _ rfl
    exact .pure hc.status_ne_error
  | .ok (.error fault) => exact forgive_status_ne_error feedback e.correlationId fault.message
  | .error b =>
    refine (forgive_status_ne_error feedback e.correlationId (b.message task)).bind_of ?_
    rintro ⟨status, output⟩ h
    exact .pure h

end QualityGate.Gate
