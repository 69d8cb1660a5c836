import QualityGate.Proofs.Decision
import QualityGate.Proofs.Findings.Acceptance
import QualityGate.Proofs.Gate.Protocol
import QualityGate.Proofs.Toolbox.Check

namespace QualityGate

open Log Recording

def ToolsSettings.enabledTools (s : ToolsSettings) : List Tool :=
  [.prettier, .eslint, .typescript].filter fun t => (s.get t).enabled

namespace CheckReport

theorem failingTools_eq_nil_iff (r : CheckReport) : r.failingTools = [] ↔ r.Silent := by
  simp [failingTools, Silent, Tool.mem_all]

theorem errorCount_eq_zero_iff (r : CheckReport) : r.errorCount = 0 ↔ r.Silent := by
  rw [errorCount, List.length_eq_zero_iff]
  simp [Silent, Tool.mem_all]

theorem errors_of_get {r : CheckReport} {tool : Tool} {errors : List String}
    (h : r.tools.get tool = some ⟨errors⟩) : r.errors tool = errors := by
  rw [CheckReport.errors, ToolReports.errors, h]

theorem errors_of_get_none {r : CheckReport} {tool : Tool} (h : r.tools.get tool = none) :
    r.errors tool = [] := by
  rw [CheckReport.errors, ToolReports.errors, h]

end CheckReport

namespace Toolbox

abbrev Finish := Tool × Completion

/-- What is said of a tool that failed without an error that is understood. -/
inductive Unexplained (tool : Tool) : Option Nat → String → Prop
  | exited {name : String} (exitCode : Nat)
      (hn : (tool, name) ∈
        [(.prettier, "Prettier"), (.eslint, "ESLint"), (.typescript, "TypeScript")]) :
      Unexplained tool (some exitCode)
        (name ++ " reported problems (exit code " ++ toString exitCode ++ ")")
  | killed {name : String}
      (hn : (tool, name) ∈
        [(.prettier, "Prettier"), (.eslint, "ESLint"), (.typescript, "TypeScript")]) :
      Unexplained tool none (name ++ " reported problems (exit code none)")

/-- The errors that the end of a tool's command stands for. There are none if it exited with zero,
whatever it wrote; otherwise there is one for each line that the parser of the tool accepts, of its
standard output first, or, without such a line, a single one with its name and its exit code. -/
inductive Tells (tool : Tool) (c : Completion) : List String → Prop
  | passed (h : c.exitCode = some 0) : Tells tool c []
  | recognised {out err : List (List Char)} {errors : List String} (h : c.exitCode ≠ some 0)
      (ho : Findings.StrippedLines (Text.Utf8.decodeLossy c.stdout).toList out)
      (he : Findings.StrippedLines (Text.Utf8.decodeLossy c.stderr).toList err)
      (hg : Findings.Gathered tool (out ++ err) errors) (hn : errors ≠ []) :
      Tells tool c errors
  | unrecognised {out err : List (List Char)} {error : String} (h : c.exitCode ≠ some 0)
      (ho : Findings.StrippedLines (Text.Utf8.decodeLossy c.stdout).toList out)
      (he : Findings.StrippedLines (Text.Utf8.decodeLossy c.stderr).toList err)
      (hg : Findings.Gathered tool (out ++ err) []) (hu : Unexplained tool c.exitCode error) :
      Tells tool c [error]

theorem unexplained_spec (tool : Tool) (exitCode : Option Nat) :
    Unexplained tool exitCode (unexplained tool exitCode) := by
  have hn : (tool, tool.label) ∈
      [(Tool.prettier, "Prettier"), (.eslint, "ESLint"), (.typescript, "TypeScript")] := by
    cases tool <;> decide
  cases exitCode with
  | none =>
    have hw : unexplained tool none = tool.label ++ " reported problems (exit code none)" := by
      cases tool <;> decide
    exact hw ▸ .killed hn
  | some n => exact .exited n hn

theorem tells_errorsOf (tool : Tool) (c : Completion) :
    Tells tool c (errorsOf tool (.ofCompletion c)) := by
  have ho := Findings.strippedLines_iff (s := Text.Utf8.decodeLossy c.stdout).mpr rfl
  have he := Findings.strippedLines_iff (s := Text.Utf8.decodeLossy c.stderr).mpr rfl
  have hg := Findings.gathered_filterMap tool
    (Findings.trimmedLines (Text.Utf8.decodeLossy c.stdout) ++
      Findings.trimmedLines (Text.Utf8.decodeLossy c.stderr))
  unfold errorsOf
  split
  · next h => exact .passed ((success_ofCompletion c).mp h)
  · next h =>
    rw [success_ofCompletion] at h
    split
    · next hs =>
      exact .unrecognised h ho he (hs ▸ hg) (unexplained_spec tool c.exitCode)
    · next e es hs => exact .recognised h ho he (hs ▸ hg) (by simp)

theorem Tells.eq_nil_iff {tool : Tool} {c : Completion} {errors : List String}
    (h : Tells tool c errors) : errors = [] ↔ c.exitCode = some 0 := by
  cases h with
  | passed h => simp [h]
  | recognised h _ _ _ hn => exact iff_of_false hn h
  | unrecognised h _ _ _ _ => simp [h]

section Reports

variable {report : CheckReport} {runs : List Finish} {told : Finish → List String}

def addRuns (told : Finish → List String) (report : CheckReport) (runs : List Finish) :
    CheckReport :=
  runs.foldl (fun r x => r.add x.1 (told x)) report

theorem get_addRuns_of_not_mem {tool : Tool} (h : tool ∉ runs.map Prod.fst) :
    (addRuns told report runs).tools.get tool = report.tools.get tool := by
  induction runs generalizing report with
  | nil => rfl
  | cons x runs ih =>
    obtain ⟨hx, hr⟩ : tool ≠ x.1 ∧ tool ∉ runs.map Prod.fst := by simpa using h
    rw [addRuns, List.foldl_cons, ← addRuns, ih hr, CheckReport.add, ToolReports.get_set,
      if_neg hx]

theorem get_addRuns_of_mem {x : Finish} (hn : (runs.map Prod.fst).Nodup) (h : x ∈ runs) :
    (addRuns told report runs).tools.get x.1 = some ⟨told x⟩ := by
  induction runs generalizing report with
  | nil => cases h
  | cons y runs ih =>
    obtain ⟨hy, hr⟩ := List.nodup_cons.mp hn
    rw [addRuns, List.foldl_cons, ← addRuns]
    cases h with
    | head => rw [get_addRuns_of_not_mem hy, CheckReport.add, ToolReports.get_set, if_pos rfl]
    | tail _ h => exact ih hr h

theorem success_addRuns :
    (addRuns told report runs).success = true ↔
      report.success = true ∧ ∀ x ∈ runs, told x = [] := by
  induction runs generalizing report with
  | nil => simp [addRuns]
  | cons x runs ih =>
    rw [addRuns, List.foldl_cons, ← addRuns, ih]
    simp [CheckReport.add, and_assoc]

end Reports

/-- The report of a check in which the given tools came to the given ends. -/
structure Accounted (settings : ToolsSettings) (runs : List Finish) (report : CheckReport) :
    Prop where
  /-- The issues are those that the runs tell, one run after another, and what is told of each is its
  message. -/
  issues : ∃ told : Finish → List String, (∀ x ∈ runs, Tells x.1 x.2 (told x)) ∧
    ∀ (p : Policy) (file : String),
      p.issues file report = (runs.flatMap fun x => (told x).map (p.issue file x.1)) ∧
      (p.issues file report).map Issue.message = runs.flatMap told
  success_iff : report.success = true ↔ ∀ x ∈ runs, x.2.exitCode = some 0
  errorCount_iff : report.errorCount = 0 ↔ ∀ x ∈ runs, x.2.exitCode = some 0
  failingTools_iff : report.failingTools = [] ↔ ∀ x ∈ runs, x.2.exitCode = some 0
  /-- An error is a line that says something. -/
  line : ∀ tool, ∀ e ∈ report.errors tool,
    Text.Lines.lines e.toList = [e.toList] ∧ Text.Blank.isBlankText e = false
  present_iff : ∀ tool, (report.tools.get tool).isSome = true ↔
    (settings.get tool).enabled = true

section Accounted

variable {settings : ToolsSettings} {runs : List Finish}

theorem mem_enabledTools {tool : Tool} :
    tool ∈ settings.enabledTools ↔ (settings.get tool).enabled = true := by
  cases tool <;> simp [ToolsSettings.enabledTools]

theorem nodup_enabledTools (settings : ToolsSettings) : settings.enabledTools.Nodup :=
  (show Tool.all.Nodup by decide).filter _

def toldBy (x : Finish) : List String :=
  errorsOf x.1 (.ofCompletion x.2)

theorem get_addRuns_clean_of_not_mem {tool : Tool} (h : tool ∉ runs.map Prod.fst) :
    (addRuns toldBy .clean runs).tools.get tool = none := by
  rw [get_addRuns_of_not_mem h]
  cases tool <;> rfl

theorem issues_addRuns (hr : runs.map Prod.fst = settings.enabledTools) (p : Policy)
    (file : String) :
    p.issues file (addRuns toldBy .clean runs) =
      runs.flatMap fun x => (toldBy x).map (p.issue file x.1) := by
  let f (t : Tool) : List Issue :=
    ((addRuns toldBy .clean runs).errors t).map (p.issue file t)
  have hd : ∀ t, (settings.get t).enabled = false → f t = [] := by
    intro t ht
    have hm : t ∉ runs.map Prod.fst := by simp [hr, mem_enabledTools, ht]
    simp [f, CheckReport.errors_of_get_none (get_addRuns_clean_of_not_mem hm)]
  have hf : ∀ ts : List Tool,
      ts.flatMap f = (ts.filter fun t => (settings.get t).enabled).flatMap f := by
    intro ts
    induction ts with
    | nil => rfl
    | cons t ts ih =>
      cases ht : (settings.get t).enabled with
      | true => rw [List.filter_cons_of_pos (by simpa using ht), List.flatMap_cons, ih,
          List.flatMap_cons]
      | false => rw [List.filter_cons_of_neg (by simpa using ht), List.flatMap_cons, hd t ht, ih,
          List.nil_append]
  calc p.issues file (addRuns toldBy .clean runs)
      = settings.enabledTools.flatMap f := hf Tool.all
    _ = runs.flatMap fun x => f x.1 := by rw [← hr, List.flatMap_map]
    _ = runs.flatMap fun x => (toldBy x).map (p.issue file x.1) := by
      refine List.flatMap_congr fun x hx => ?_
      have hn : (runs.map Prod.fst).Nodup := hr ▸ nodup_enabledTools settings
      simp only [f, CheckReport.errors_of_get (get_addRuns_of_mem hn hx)]

theorem messages_addRuns (hr : runs.map Prod.fst = settings.enabledTools) (p : Policy)
    (file : String) :
    (p.issues file (addRuns toldBy .clean runs)).map Issue.message = runs.flatMap toldBy := by
  rw [issues_addRuns hr, List.map_flatMap]
  exact List.flatMap_congr fun x _ => p.map_message_issue file x.1 (toldBy x)

theorem silent_addRuns_iff (hr : runs.map Prod.fst = settings.enabledTools) :
    (addRuns toldBy .clean runs).Silent ↔ ∀ x ∈ runs, toldBy x = [] := by
  rw [← Policy.issues_eq_nil_iff .default "", issues_addRuns hr]
  simp

theorem accounted_addRuns {file : String} {tools : List Tool} {l : List Turn}
    (hr : runs.map Prod.fst = settings.enabledTools)
    (h : Checks settings file tools .clean l (.ok (addRuns toldBy .clean runs))) :
    Accounted settings runs (addRuns toldBy .clean runs) where
  issues := ⟨toldBy, fun x _ => tells_errorsOf x.1 x.2, fun p file =>
    ⟨issues_addRuns hr p file, messages_addRuns hr p file⟩⟩
  success_iff := by
    rw [success_addRuns, and_iff_right (show CheckReport.clean.success = true from rfl)]
    exact forall₂_congr fun x _ => (tells_errorsOf x.1 x.2).eq_nil_iff
  errorCount_iff := by
    rw [CheckReport.errorCount_eq_zero_iff, silent_addRuns_iff hr]
    exact forall₂_congr fun x _ => (tells_errorsOf x.1 x.2).eq_nil_iff
  failingTools_iff := by
    rw [CheckReport.failingTools_eq_nil_iff, silent_addRuns_iff hr]
    exact forall₂_congr fun x _ => (tells_errorsOf x.1 x.2).eq_nil_iff
  line := by
    intro tool e he
    have hb := (h.sound (sound_clean settings)).told tool e he
    have hn : e.toList ≠ [] := by
      intro hn
      simp [Text.Blank.isBlankText, hn] at hb
    exact ⟨Text.Lines.lines_of_not_mem (h.not_mem_errors he) hn, hb⟩
  present_iff := by
    intro tool
    rw [← mem_enabledTools, ← hr]
    by_cases hm : tool ∈ runs.map Prod.fst
    · obtain ⟨x, hx, rfl⟩ := List.mem_map.mp hm
      have hn : (runs.map Prod.fst).Nodup := hr ▸ nodup_enabledTools settings
      simp [get_addRuns_of_mem hn hx, hm]
    · simp [get_addRuns_clean_of_not_mem hm, hm]

end Accounted

/-- A tool is to check a file: its program is tried with its arguments and the file after them. -/
def tried (settings : ToolsSettings) (file : String) (tool : Tool)
    (answer : Except SpawnError Completion) : Turn :=
  .performed ⟨(settings.get tool).program, (settings.get tool).args ++ [file]⟩ answer

def ended (settings : ToolsSettings) (file : String) (x : Finish) : Turn :=
  tried settings file x.1 (.ok x.2)

/-- The commands that a check carries out, and what it comes to: either all of the tools come to an
end, or the first that cannot be started is the last whose command is tried. -/
inductive Surveyed (settings : ToolsSettings) (file : String) :
    List Turn → Except GateError CheckReport → Prop
  | completed {runs : List Finish} {report : CheckReport}
      (hr : runs.map Prod.fst = settings.enabledTools) (h : Accounted settings runs report) :
      Surveyed settings file (runs.map (ended settings file)) (.ok report)
  | stopped {runs : List Finish} {tool : Tool} {after : List Tool} (cause : SpawnError)
      (hr : settings.enabledTools = runs.map Prod.fst ++ tool :: after) :
      Surveyed settings file
        (runs.map (ended settings file) ++ [tried settings file tool (.error cause)])
        (.error (.toolSpawn tool cause))

theorem Checks.runs {settings : ToolsSettings} {file : String} {tools : List Tool}
    {report : CheckReport} {l : List Turn} {answer : Except GateError CheckReport}
    (h : Checks settings file tools report l answer) :
    ∃ runs : List Finish,
      (runs.map Prod.fst = tools.filter (fun t => (settings.get t).enabled) ∧
        l = runs.map (ended settings file) ∧ answer = .ok (addRuns toldBy report runs)) ∨
      ∃ tool after cause,
        tools.filter (fun t => (settings.get t).enabled) = runs.map Prod.fst ++ tool :: after ∧
        l = runs.map (ended settings file) ++ [tried settings file tool (.error cause)] ∧
        answer = .error (.toolSpawn tool cause) := by
  induction h with
  | done report => exact ⟨[], .inl ⟨rfl, rfl, rfl⟩⟩
  | skipped hd _ ih =>
    rw [List.filter_cons_of_neg (by simpa using hd)]
    exact ih
  | unstartable cause he =>
    rw [List.filter_cons_of_pos (by simpa using he)]
    exact ⟨[], .inr ⟨_, _, cause, rfl, rfl, rfl⟩⟩
  | finished c he _ ih =>
    rw [List.filter_cons_of_pos (by simpa using he)]
    obtain ⟨runs, ⟨hr, rfl, rfl⟩ | ⟨tool, after, cause, hr, rfl, rfl⟩⟩ := ih
    · exact ⟨(_, c) :: runs, .inl ⟨by rw [List.map_cons, hr], rfl, rfl⟩⟩
    · exact ⟨(_, c) :: runs, .inr ⟨tool, after, cause, by rw [hr]; rfl, rfl, rfl⟩⟩

theorem Checks.surveyed {settings : ToolsSettings} {file : String} {l : List Turn}
    {answer : Except GateError CheckReport} (h : Checks settings file Tool.all .clean l answer) :
    Surveyed settings file l answer := by
  obtain ⟨runs, ⟨hr, rfl, rfl⟩ | ⟨tool, after, cause, hr, rfl, rfl⟩⟩ := h.runs
  · exact .completed hr (accounted_addRuns hr h)
  · exact .stopped cause hr

section Surveyed

variable {settings : ToolsSettings} {file : String} {l : List Turn}
  {answer : Except GateError CheckReport} {report : CheckReport}

theorem Surveyed.error_iff (h : Surveyed settings file l answer) :
    (∃ e, answer = .error e) ↔ ∃ tool cause, (settings.get tool).enabled = true ∧
      tried settings file tool (.error cause) ∈ l := by
  cases h with
  | completed hr h => simp [ended, tried]
  | @stopped _ tool _ cause hr =>
    have he : (settings.get tool).enabled = true := by
      rw [← mem_enabledTools, hr]
      simp
    exact iff_of_true ⟨_, rfl⟩ ⟨tool, cause, he, by simp⟩

theorem Surveyed.issues_eq_nil_iff (h : Surveyed settings file l (.ok report)) (p : Policy)
    (file : String) : p.issues file report = [] ↔ report.success = true := by
  cases h with
  | completed hr h =>
    rw [Policy.issues_eq_nil_iff, ← report.failingTools_eq_nil_iff, h.failingTools_iff,
      ← h.success_iff]

theorem Surveyed.action_ne_proceed (h : Surveyed settings file l (.ok report))
    (hs : report.success = false) (p : Policy) (file : String) :
    (Decision.ofIssues (p.issues file report)).action ≠ .proceed := by
  rw [ne_eq, Decision.action_eq_proceed_iff, h.issues_eq_nil_iff, hs]
  exact Bool.false_ne_true

end Surveyed

section Gate

variable {σ : Type} (host : Host (WorldM σ)) (settings : ToolsSettings) (fixer : Fixer (WorldM σ))
  (formatter : Formatter) (policy : Policy) (revalidate : Bool) (e : Errand) (w : World σ)

theorem evaluate_never_proceeds {v : Evaluation} {d : Decision}
    (hv : (Gate.evaluate ⟨checker host settings, fixer, formatter, policy, revalidate⟩ e w).1 =
      .ok v) (hd : v.decision = some d) : d.action ≠ .proceed := by
  let g : Gate (WorldM σ) := ⟨checker host settings, fixer, formatter, policy, revalidate⟩
  let fixer' : Fixer (Recording Turn (WorldM σ)) :=
    ⟨fun file report => StateT.lift (fixer.fix file report)⟩
  have h : Records _ ((g.restaff (checker host.recorded settings) fixer').evaluate e)
      (g.evaluate e) :=
    Gate.records_evaluate (fun file => records_check host settings file) e
  obtain ⟨l, ⟨answer, hc, ha⟩, -⟩ := h.run_eq w
  rw [show (g.evaluate e w).1 = .ok v from hv] at ha
  cases answer with
  | error _ => cases ha
  | ok report =>
    cases ha
    cases hs : report.success with
    | true => simp [Gate.evaluation, hs] at hd
    | false =>
      simp only [Gate.evaluation, hs, Bool.false_eq_true, if_false, Option.some.injEq] at hd
      subst hd
      exact hc.surveyed.action_ne_proceed hs policy e.file

theorem run_never_proceeds {r : HookReport} {d : Decision}
    (hv : (Gate.run ⟨checker host settings, fixer, formatter, policy, revalidate⟩ e w).1 = .ok r)
    (hd : r.decision = some d) : d.action ≠ .proceed := by
  let g : Gate (WorldM σ) := ⟨checker host settings, fixer, formatter, policy, revalidate⟩
  let fixer' : Fixer (Recording Turn (WorldM σ)) :=
    ⟨fun file report => StateT.lift (fixer.fix file report)⟩
  have h : Records _ ((g.restaff (checker host.recorded settings) fixer').run e) (g.run e) :=
    Gate.records_run (F := fun _ _ l _ => l = []) (fun file => records_check host settings file)
      (fun file report => Records.lift _) e
  obtain ⟨l, ⟨a, ht, hc⟩, -⟩ := h.run_eq w
  rw [show (g.run e w).1 = .ok r from hv] at hc
  cases ht with
  | unchecked _ => cases hc
  | checked hchecks _ =>
    cases hc with
    | passed _ => cases hd
    | decided hs hr =>
      obtain rfl := Option.some.inj (hr.decision_eq.symm.trans hd)
      exact hchecks.surveyed.action_ne_proceed hs policy e.file

/-- A check runs every enabled tool once and reports what the runs tell, or it stops at the first
tool that cannot be started. A gate that checks in this way never decides to go on. -/
theorem check_provenance :
    (∃ l, (checker host.recorded settings).check e.file [] w =
        ((((checker host settings).check e.file w).1, l),
          ((checker host settings).check e.file w).2) ∧
      Surveyed settings e.file l ((checker host settings).check e.file w).1 ∧
      ((∃ err, ((checker host settings).check e.file w).1 = .error err) ↔
        ∃ tool cause, (settings.get tool).enabled = true ∧
          tried settings e.file tool (.error cause) ∈ l)) ∧
    (∀ v d, (Gate.evaluate ⟨checker host settings, fixer, formatter, policy, revalidate⟩ e w).1 =
      .ok v → v.decision = some d → d.action ≠ .proceed) ∧
    ∀ r d, (Gate.run ⟨checker host settings, fixer, formatter, policy, revalidate⟩ e w).1 =
      .ok r → r.decision = some d → d.action ≠ .proceed := by
  obtain ⟨l, hc, he⟩ := (records_check host settings e.file).run_eq w
  refine ⟨⟨l, he, hc.surveyed, hc.surveyed.error_iff⟩, fun v d => ?_, fun r d => ?_⟩
  · exact evaluate_never_proceeds host settings fixer formatter policy revalidate e w
  · exact run_never_proceeds host settings fixer formatter policy revalidate e w

end Gate

end Toolbox
end QualityGate
