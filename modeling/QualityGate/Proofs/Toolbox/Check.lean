import QualityGate.Proofs.Diagnostic.Policy
import QualityGate.Proofs.Findings.Blank
import QualityGate.Proofs.Findings.OneLine
import QualityGate.Proofs.Gate.Transcript
import QualityGate.Proofs.Text.Digits
import QualityGate.Toolbox.Check

namespace QualityGate

open Recording

namespace CheckReport

theorem errors_add (r : CheckReport) (tool : Tool) (errors : List String) (t : Tool) :
    (r.add tool errors).errors t = if t = tool then errors else r.errors t := by
  rw [CheckReport.errors, CheckReport.add, ToolReports.errors, ToolReports.get_set]
  by_cases h : t = tool
  · simp [h]
  · simp only [h, if_false]
    rfl

end CheckReport

namespace Toolbox

theorem success_ofCompletion (c : Completion) :
    (ToolRun.ofCompletion c).success = true ↔ c.exitCode = some 0 := by
  simp [ToolRun.success, ToolRun.ofCompletion]

/-- What the end of a command, or the failure to start it, comes to. -/
def ran (tool : Tool) : Except SpawnError Completion → Except GateError ToolRun
  | .error cause => .error (.toolSpawn tool cause)
  | .ok c => .ok (.ofCompletion c)

/-- The courses of a check by the given tools, of which some have had their turn. -/
inductive Checks (settings : ToolsSettings) (file : String) :
    List Tool → CheckReport → List Turn → Except GateError CheckReport → Prop
  | done (report : CheckReport) : Checks settings file [] report [] (.ok report)
  | skipped {tool : Tool} {tools : List Tool} {report : CheckReport} {l : List Turn}
      {answer : Except GateError CheckReport} (hd : (settings.get tool).enabled = false)
      (h : Checks settings file tools report l answer) :
      Checks settings file (tool :: tools) report l answer
  | unstartable {tool : Tool} {tools : List Tool} {report : CheckReport} (cause : SpawnError)
      (he : (settings.get tool).enabled = true) :
      Checks settings file (tool :: tools) report
        [.performed ((settings.get tool).checkCommand file) (.error cause)]
        (.error (.toolSpawn tool cause))
  | finished {tool : Tool} {tools : List Tool} {report : CheckReport} {l : List Turn}
      {answer : Except GateError CheckReport} (c : Completion)
      (he : (settings.get tool).enabled = true)
      (h : Checks settings file tools (report.add tool (errorsOf tool (.ofCompletion c))) l
        answer) :
      Checks settings file (tool :: tools) report
        (.performed ((settings.get tool).checkCommand file) (.ok c) :: l) answer

/-- A report as tools make it: every error was told by an enabled tool and says something, and a
report with errors is no success. -/
structure Sound (settings : ToolsSettings) (report : CheckReport) : Prop where
  silent : report.success = true → report.Silent
  enabled : ∀ tool, report.errors tool ≠ [] → (settings.get tool).enabled = true
  told : ∀ tool, ∀ e ∈ report.errors tool, Text.Blank.isBlankText e = false

theorem sound_clean (settings : ToolsSettings) : Sound settings .clean := by
  have hn : ∀ tool, CheckReport.clean.errors tool = [] := by
    intro tool
    cases tool <;> rfl
  exact ⟨fun _ => hn, fun tool h => absurd (hn tool) h, fun tool e he => by simp [hn] at he⟩

theorem not_blank_unexplained (tool : Tool) (exitCode : Option Nat) :
    Text.Blank.isBlankText (unexplained tool exitCode) = false := by
  refine Text.Blank.isBlankText_of_mem (c := '(') ?_ (by decide)
  simp [unexplained]

theorem not_blank_of_mem_errorsOf {tool : Tool} {run : ToolRun} {e : String}
    (h : e ∈ errorsOf tool run) : Text.Blank.isBlankText e = false := by
  unfold errorsOf at h
  split at h
  · cases h
  · split at h
    · rw [List.mem_singleton.mp h]
      exact not_blank_unexplained tool run.exitCode
    · next hf => exact Findings.not_blank_of_mem_errors (hf ▸ h)

theorem not_mem_unexplained (tool : Tool) (exitCode : Option Nat) :
    '\n' ∉ (unexplained tool exitCode).toList := by
  have hl : '\n' ∉ tool.label.toList := by cases tool <;> decide
  have hc : '\n' ∉ ((exitCode.map Text.Digits.decimal).getD "none").toList := by
    cases exitCode with
    | none => decide
    | some n => exact Text.Digits.not_mem_decimal n
  simp [unexplained, hl, hc]

theorem not_mem_of_mem_errorsOf {tool : Tool} {run : ToolRun} {e : String}
    (h : e ∈ errorsOf tool run) : '\n' ∉ e.toList := by
  unfold errorsOf at h
  split at h
  · cases h
  · split at h
    · rw [List.mem_singleton.mp h]
      exact not_mem_unexplained tool run.exitCode
    · next hf => exact Findings.not_mem_of_mem_errors (hf ▸ h)

theorem Sound.add {settings : ToolsSettings} {report : CheckReport} (h : Sound settings report)
    {tool : Tool} (he : (settings.get tool).enabled = true) (run : ToolRun) :
    Sound settings (report.add tool (errorsOf tool run)) := by
  refine ⟨fun hs t => ?_, fun t ht => ?_, fun t e hm => ?_⟩
  · have hs' : report.success = true ∧ errorsOf tool run = [] := by
      simpa [CheckReport.add] using hs
    rw [CheckReport.errors_add]
    split
    · exact hs'.2
    · exact h.silent hs'.1 t
  · rw [CheckReport.errors_add] at ht
    split at ht
    · next hx => rwa [hx]
    · exact h.enabled t ht
  · rw [CheckReport.errors_add] at hm
    split at hm
    · exact not_blank_of_mem_errorsOf hm
    · exact h.told t e hm

theorem Checks.sound {settings : ToolsSettings} {file : String} {tools : List Tool}
    {report report' : CheckReport} {l : List Turn}
    (h : Checks settings file tools report l (.ok report')) (hs : Sound settings report) :
    Sound settings report' := by
  generalize ha : Except.ok report' = answer at h
  induction h with
  | done report =>
    cases ha
    exact hs
  | skipped _ _ ih => exact ih hs ha
  | unstartable _ _ => cases ha
  | finished c he _ ih => exact ih (hs.add he (.ofCompletion c)) ha

theorem Checks.exists_run {settings : ToolsSettings} {file : String} {tools : List Tool}
    {report report' : CheckReport} {l : List Turn}
    (h : Checks settings file tools report l (.ok report')) {tool : Tool} {e : String}
    (he : e ∈ report'.errors tool) : e ∈ report.errors tool ∨ ∃ run, e ∈ errorsOf tool run := by
  generalize ha : Except.ok report' = answer at h
  induction h with
  | done report =>
    cases ha
    exact .inl he
  | skipped _ _ ih => exact ih ha
  | unstartable _ _ => cases ha
  | finished c _ _ ih =>
    refine (ih ha).elim (fun hm => ?_) .inr
    rw [CheckReport.errors_add] at hm
    split at hm
    · next ht => exact .inr ⟨_, ht ▸ hm⟩
    · exact .inl hm

theorem Checks.not_mem_errors {settings : ToolsSettings} {file : String} {tools : List Tool}
    {report : CheckReport} {l : List Turn} (h : Checks settings file tools .clean l (.ok report))
    {tool : Tool} {e : String} (he : e ∈ report.errors tool) : '\n' ∉ e.toList := by
  rcases h.exists_run he with hm | ⟨run, hm⟩
  · cases tool <;> cases hm
  · exact not_mem_of_mem_errorsOf hm

theorem Checks.performed {settings : ToolsSettings} {file : String} {tools : List Tool}
    {report : CheckReport} {l : List Turn} {answer : Except GateError CheckReport}
    (h : Checks settings file tools report l answer) :
    ∀ t ∈ l, ∃ c answer, t = .performed c answer := by
  induction h with
  | done _ => simp
  | skipped _ _ ih => exact ih
  | unstartable _ _ => simp
  | finished c _ _ ih => simpa using ih

variable {m : Type → Type} [Monad m] [LawfulMonad m] [Log.Journal m]

theorem records_perform (host : Host m) (tool : Tool) (c : Command) :
    Records (fun l a => ∃ answer, l = [.performed c answer] ∧ a = ran tool answer)
      (perform host.recorded tool c) (perform host tool c) := by
  refine .event_bind _ _ _ _ ((host.records_recorded c).bind fun l answer hl => ?_)
  subst hl
  cases answer with
  | error cause => exact .event_bind _ _ _ _ (.pure ⟨.error cause, rfl, rfl⟩)
  | ok c => exact .pure ⟨.ok c, rfl, rfl⟩

theorem records_checkWith (host : Host m) (settings : ToolsSettings) (file : String)
    (tools : List Tool) (report : CheckReport) :
    Records (Checks settings file tools report)
      (checkWith host.recorded settings file tools report)
      (checkWith host settings file tools report) := by
  induction tools generalizing report with
  | nil => exact .pure (.done report)
  | cons tool tools ih =>
    refine .ite (fun he => ?_) (fun he => ?_)
    · refine (records_perform host tool _).bind fun l a ha => ?_
      obtain ⟨answer, rfl, rfl⟩ := ha
      cases answer with
      | error cause => exact .pure (.unstartable cause he)
      | ok c => exact .event_bind _ _ _ _ ((ih _).mono fun l a h => .finished c he h)
    · have hd : (settings.get tool).enabled = false := by simpa using he
      exact (ih report).mono fun l a h => .skipped hd h

theorem records_check (host : Host m) (settings : ToolsSettings) (file : String) :
    Records (Checks settings file Tool.all .clean)
      ((checker host.recorded settings).check file) ((checker host settings).check file) :=
  records_checkWith host settings file Tool.all .clean

end Toolbox
end QualityGate
