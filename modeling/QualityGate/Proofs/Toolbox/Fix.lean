import QualityGate.Proofs.Toolbox.Check
import QualityGate.Toolbox.Fix

namespace QualityGate.Toolbox

open Recording

/-- The courses of a repair by the given tools, of which some have had their turn. -/
inductive Fixes (settings : ToolsSettings) (file : String) :
    List Tool → Bool → List Turn → Except GateError FixResult → Prop
  | done (success : Bool) : Fixes settings file [] success [] (.ok ⟨success⟩)
  | unstartable {tool : Tool} {tools : List Tool} {success : Bool} (cause : SpawnError) :
      Fixes settings file (tool :: tools) success
        [.performed ((settings.get tool).fixCommand file) (.error cause)]
        (.error (.toolSpawn tool cause))
  | finished {tool : Tool} {tools : List Tool} {success : Bool} {l : List Turn}
      {answer : Except GateError FixResult} (c : Completion)
      (h : Fixes settings file tools (success && (ToolRun.ofCompletion c).success) l answer) :
      Fixes settings file (tool :: tools) success
        (.performed ((settings.get tool).fixCommand file) (.ok c) :: l) answer

theorem mem_repairers {settings : ToolsSettings} {report : CheckReport} {tool : Tool} :
    tool ∈ repairers settings report ↔
      report.errors tool ≠ [] ∧ (settings.get tool).enabled = true ∧
        (settings.get tool).canFix = true := by
  simpa [repairers, CheckReport.failingTools, Tool.mem_all] using and_comm

variable {settings : ToolsSettings} {file : String} {tools : List Tool} {success : Bool}
  {l : List Turn} {answer : Except GateError FixResult}

theorem Fixes.performed (h : Fixes settings file tools success l answer) :
    ∀ t ∈ l, ∃ tool ∈ tools, ∃ answer,
      t = .performed ((settings.get tool).fixCommand file) answer := by
  induction h with
  | done _ => simp
  | unstartable cause => simp
  | finished c _ ih =>
    intro t ht
    cases ht with
    | head => exact ⟨_, List.mem_cons_self, _, rfl⟩
    | tail _ ht =>
      obtain ⟨tool, hm, answer, rfl⟩ := ih t ht
      exact ⟨tool, List.mem_cons_of_mem _ hm, answer, rfl⟩

theorem Fixes.succeeded (h : Fixes settings file tools success l (.ok ⟨true⟩)) :
    success = true ∧ ∀ tool ∈ tools, ∃ c : Completion, c.exitCode = some 0 ∧
      .performed ((settings.get tool).fixCommand file) (.ok c) ∈ l := by
  generalize ha : Except.ok (FixResult.mk true) = answer at h
  induction h with
  | done success =>
    cases ha
    simp
  | unstartable cause => cases ha
  | finished c _ ih =>
    obtain ⟨hb, ht⟩ := ih ha
    obtain ⟨hs, hc⟩ := Bool.and_eq_true_iff.mp hb
    refine ⟨hs, fun tool hm => ?_⟩
    cases hm with
    | head => exact ⟨c, (success_ofCompletion c).mp hc, List.mem_cons_self⟩
    | tail _ hm =>
      obtain ⟨c', hc', hl⟩ := ht tool hm
      exact ⟨c', hc', List.mem_cons_of_mem _ hl⟩

section Records

variable {m : Type → Type} [Monad m] [LawfulMonad m] [Log.Journal m]

theorem records_fixWith (host : Host m) (settings : ToolsSettings) (file : String)
    (tools : List Tool) (success : Bool) :
    Records (Fixes settings file tools success)
      (fixWith host.recorded settings file tools success)
      (fixWith host settings file tools success) := by
  induction tools generalizing success with
  | nil => exact .event_bind _ _ _ _ (.pure (.done success))
  | cons tool tools ih =>
    refine (records_perform host tool _).bind fun l a ha => ?_
    obtain ⟨answer, rfl, rfl⟩ := ha
    cases answer with
    | error cause => exact .pure (.unstartable cause)
    | ok c =>
      refine .ite (fun _ => .event_bind _ _ _ _ ?_) (fun _ => ?_) <;>
        exact (ih _).mono fun l a h => .finished c h

theorem records_fix (host : Host m) (settings : ToolsSettings) (file : String)
    (report : CheckReport) :
    Records (Fixes settings file (repairers settings report) true)
      ((fixer host.recorded settings).fix file report) ((fixer host settings).fix file report) :=
  records_fixWith host settings file (repairers settings report) true

end Records

end QualityGate.Toolbox
