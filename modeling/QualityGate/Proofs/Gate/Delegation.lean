import QualityGate.Gate.Assembly
import QualityGate.Proofs.Gate.Listed
import QualityGate.Proofs.Settings.Validation
import QualityGate.Proofs.Toolbox.Fix

namespace QualityGate

open Log Recording BlockingMessage

/-- The message that blocks is put together from a list in which an error of a report has its part:
from the issues of the report that no repair can settle, if the error's own is one of them, or from
all errors of the report, tool after tool. -/
def HookReport.Tells (r : HookReport) (p : Policy) (file : String) (report : CheckReport)
    (tool : Tool) (error : String) : Prop :=
  ∃ message lines, r.status = .qualityIssues ∧ r.blocking = some message ∧
    (message.reason = "❌ Quality issues found:\n\n" ++ "\n".intercalate lines ∧
        List.Forall₂ Issue.ShownAs ((p.issues file report).filter (!·.fixable)) lines ∧
        p.issue file tool error ∈ (p.issues file report).filter (!·.fixable) ∨
      message.reason = "\n".intercalate lines ∧ report.LabelledAs lines ∧
        ¬ Text.Blank.Stripped error.toList [])

theorem HookReport.Tells.of_unfixable {r : HookReport} {p : Policy} {file : String}
    {report : CheckReport} {tool : Tool} {error : String} {context : Option String}
    (hs : r.status = .qualityIssues)
    (hb : r.blocking = some ⟨issuesText ((p.issues file report).filter (!·.fixable)), context⟩)
    (hi : p.issue file tool error ∈ p.issues file report)
    (hu : (p.issue file tool error).fixable = false) : r.Tells p file report tool error :=
  ⟨_, _, hs, hb, .inl ⟨rfl, forall₂_shownAs_iff.mpr rfl, List.mem_filter.mpr ⟨hi, by simp [hu]⟩⟩⟩

/-- What is recorded is a repair that succeeded, and the tool has done its part in it: its fix
command ended with success. A tool without arguments for a repair has no part in it. -/
def ToolSettings.TookPart (t : ToolSettings) (file : String) (report : CheckReport)
    (l : List Turn) : Prop :=
  ∃ fixes, l = .fixCalled file report :: fixes ++ [.fixReturned (.ok ⟨true⟩)] ∧
    (t.fixArgs ≠ [] → ∃ c : Completion, c.exitCode = some 0 ∧
      .performed ⟨t.program, t.fixArgs ++ [file]⟩ (.ok c) ∈ fixes) ∧
    (t.fixArgs = [] → ∀ answer, .performed ⟨t.program, [file]⟩ answer ∉ fixes)

namespace Gate

variable {σ : Type} {g : Gate (WorldM σ)} {file : String} {report : CheckReport}
  {fix : Option (Except GateError FixResult)} {second : Option (Except GateError CheckReport)}
  {r : HookReport}

theorem Trusted.eq_none (hv : g.revalidate = false) (h : Trusted g second) : second = none := by
  cases h with
  | unasked _ => rfl
  | unanswered hv' => simp [hv] at hv'

theorem Carried.tells_or_trusted (hf : g.formatter = ErrorList.text?) (hv : g.revalidate = false)
    (h : Carried g file report (g.policy.issues file report)
      (.ofIssues (g.policy.issues file report)) fix second r)
    {tool : Tool} {error : String} (he : error ∈ report.errors tool)
    (hb : Text.Blank.isBlankText error = false) :
    r.Tells g.policy file report tool error ∨
      (g.policy.issue file tool error).fixable = true ∧ fix = some (.ok ⟨true⟩) ∧
        second = none := by
  have hi : g.policy.issue file tool error ∈ g.policy.issues file report :=
    (Policy.mem_issues_iff ..).mpr ⟨tool, error, he, rfl⟩
  cases h with
  | proceeds hd =>
    rw [Decision.action_eq_proceed_iff] at hd
    rw [hd] at hi
    cases hi
  | reports hd =>
    have hu : (g.policy.issue file tool error).fixable = false := by
      by_contra hn
      have hr := (Decision.requiresFix_iff _).mpr ⟨_, hi, by simpa using hn⟩
      simp [hd, Action.requiresFix] at hr
    exact .inl (.of_unfixable rfl (by rw [Decision.issues_of_ne_fixSilently (by simp [hd])]) hi hu)
  | fails hd ha =>
    have hm := ErrorList.mem_entries he hb
    have hs : ¬ Text.Blank.Stripped error.toList [] := by
      rw [← Text.Blank.isBlankText_iff, hb]
      exact Bool.false_ne_true
    refine .inl ⟨_, _, rfl, rfl, .inr ⟨?_, (ErrorList.labelledAs_iff report _).mpr rfl, hs⟩⟩
    rw [hf, ErrorList.text?_eq_some (List.ne_nil_of_mem hm), Option.getD_some]
  | settles hd ht =>
    exact .inr ⟨Decision.all_fixable_of_fixSilently hd _ hi, rfl, ht.eq_none hv⟩
  | leaves hd ht =>
    by_cases hx : (g.policy.issue file tool error).fixable = true
    · exact .inr ⟨hx, rfl, ht.eq_none hv⟩
    · have hu : (g.policy.issue file tool error).fixable = false := by simpa using hx
      exact .inl (.of_unfixable rfl
        (by rw [Decision.issues_of_ne_fixSilently (by simp [hd])]) hi hu)
  | clears _ hv' _ => simp [hv] at hv'
  | remains _ hv' _ => simp [hv] at hv'

end Gate

theorem Toolbox.Fixes.tookPart {settings : ToolsSettings} {file : String}
    {report : CheckReport} {fixes : List Turn}
    (h : Fixes settings file (repairers settings report) true fixes (.ok ⟨true⟩)) {tool : Tool}
    (he : report.errors tool ≠ []) (hs : Sound settings report) :
    (settings.get tool).TookPart file report
      (.fixCalled file report :: fixes ++ [.fixReturned (.ok ⟨true⟩)]) := by
  refine ⟨fixes, rfl, fun hc => ?_, fun hc answer hm => ?_⟩
  · have hf : (settings.get tool).canFix = true := by simpa [ToolSettings.canFix] using hc
    exact h.succeeded.2 tool (mem_repairers.mpr ⟨he, hs.enabled tool he, hf⟩)
  · obtain ⟨tool', ht, answer', heq⟩ := h.performed _ hm
    obtain ⟨-, -, hc'⟩ := mem_repairers.mp ht
    have ha : [] ++ [file] = (settings.get tool').fixArgs ++ [file] :=
      congrArg Command.args (Turn.performed.inj heq).1
    simp [ToolSettings.canFix, ← List.append_cancel_right ha] at hc'

namespace Gate

variable {σ : Type}

def CheckedBy (settings : ToolsSettings) (file : String) (l : List Turn)
    (answer : Except GateError CheckReport) : Prop :=
  ∃ checks, Toolbox.Checks settings file Tool.all .clean checks answer ∧
    l = .checkCalled file :: checks ++ [.checkReturned answer]

def RepairedBy (settings : ToolsSettings) (file : String) (report : CheckReport) (l : List Turn)
    (answer : Except GateError FixResult) : Prop :=
  ∃ fixes, Toolbox.Fixes settings file (Toolbox.repairers settings report) true fixes answer ∧
    l = .fixCalled file report :: fixes ++ [.fixReturned answer]

section Records

variable {m : Type → Type} [Monad m] [Journal m]

theorem ofSettings_eq (host : Host m) {s : Settings} {p : Policy}
    (hp : Policy.ofSettings s.policy = .ok p) :
    ofSettings host s = .ok ⟨Toolbox.checker host s.tools, Toolbox.fixer host s.tools,
      ErrorList.text?, p, s.remediation.revalidate⟩ := by
  rw [ofSettings, hp]
  rfl

variable [LawfulMonad m] (host : Host m) (settings : ToolsSettings) (file : String)

theorem records_checkedBy :
    Records (CheckedBy settings file) ((Toolbox.checker host.recorded settings).marked.check file)
      ((Toolbox.checker host settings).check file) :=
  Checker.records_marked (C := fun file => Toolbox.Checks settings file Tool.all .clean) file
    (Toolbox.records_check host settings file)

theorem records_repairedBy (report : CheckReport) :
    Records (RepairedBy settings file report)
      ((Toolbox.fixer host.recorded settings).marked.fix file report)
      ((Toolbox.fixer host settings).fix file report) :=
  Fixer.records_marked
    (F := fun file report => Toolbox.Fixes settings file (Toolbox.repairers settings report) true)
    file report (Toolbox.records_fix host settings file report)

end Records

/-- What becomes of the errors of the first check in a run with the given record. -/
def Accounts (g : Gate (WorldM σ)) (settings : ToolsSettings) (file : String) (r : HookReport)
    (l : List Turn) : Prop :=
  ∃ report checks rest,
    l = .checkCalled file :: checks ++ .checkReturned (.ok report) :: rest ∧
    (∀ t ∈ checks, ∃ c answer, t = .performed c answer) ∧
    ∀ tool, ∀ error ∈ report.errors tool,
      r.Tells g.policy file report tool error ∨
        (g.policy.issue file tool error).fixable = true ∧
          (settings.get tool).TookPart file report rest

theorem Course.accounts {g : Gate (WorldM σ)} {settings : ToolsSettings} {file : String}
    {a : Answers} {l : List Turn} {r : HookReport} (hf : g.formatter = ErrorList.text?)
    (hv : g.revalidate = false)
    (hl : a.Told (CheckedBy settings) (RepairedBy settings) file l)
    (h : Course g file a (.ok r)) : g.Accounts settings file r l := by
  cases hl with
  | unchecked _ => cases h
  | @checked _ rest report fix second hc hx =>
    obtain ⟨checks, hchecks, rfl⟩ := hc
    have hs : Toolbox.Sound settings report := hchecks.sound (Toolbox.sound_clean settings)
    refine ⟨report, checks, rest, by simp, hchecks.performed, fun tool error he => ?_⟩
    cases h with
    | passed hp =>
      rw [hs.silent hp tool] at he
      cases he
    | decided _ hr =>
      refine (hr.tells_or_trusted hf hv he (hs.told tool error he)).imp_right ?_
      rintro ⟨hi, rfl, rfl⟩
      cases hx with
      | repair hx =>
        obtain ⟨fixes, hfixes, rfl⟩ := hx
        exact ⟨hi, hfixes.tookPart (List.ne_nil_of_mem he) hs⟩

/-- Valid settings make a gate. Each of its runs takes a course, and what is recorded is what its
answers tell with the commands behind them. -/
theorem exists_course (s : Settings) (hs : s.validate = .ok ()) (host : Host (WorldM σ)) :
    ∃ g g', ofSettings host s = .ok g ∧ ofSettings host.recorded s = .ok g' ∧
      g.formatter = ErrorList.text? ∧ g.revalidate = s.remediation.revalidate ∧
      ∀ e w, ∃ a l, a.Told (CheckedBy s.tools) (RepairedBy s.tools) e.file l ∧
        g'.marked.run e [] w = (((g.run e w).1, l), (g.run e w).2) ∧
        Course g e.file a (g.run e w).1 := by
  obtain ⟨p, hp⟩ := Settings.exists_policy hs
  refine ⟨_, _, ofSettings_eq host hp, ofSettings_eq host.recorded hp, rfl, rfl, fun e w => ?_⟩
  obtain ⟨l, ⟨a, hl, hc⟩, he⟩ := (records_run
    (g := ⟨Toolbox.checker host s.tools, Toolbox.fixer host s.tools, ErrorList.text?, p,
      s.remediation.revalidate⟩)
    (records_checkedBy host s.tools) (records_repairedBy host s.tools) e).run_eq w
  exact ⟨a, l, hl, he, hc⟩

/-- When a successful repair is trusted, every error of the first check is told to the agent, or its
issue is fixable and was left to the repair. That repair carried out the fix command of the tool
with success, unless the tool has none: then the issue is dropped. -/
theorem ofSettings_delegates (s : Settings) (hs : s.validate = .ok ())
    (hv : s.remediation.revalidate = false) (host : Host (WorldM σ)) :
    ∃ g g', ofSettings host s = .ok g ∧ ofSettings host.recorded s = .ok g' ∧
      ∀ e w, ∃ l, g'.marked.run e [] w = (((g.run e w).1, l), (g.run e w).2) ∧
        ∀ r, (g.run e w).1 = .ok r → g.Accounts s.tools e.file r l := by
  obtain ⟨g, g', hg, hg', hf, hvg, h⟩ := exists_course s hs host
  refine ⟨g, g', hg, hg', fun e w => ?_⟩
  obtain ⟨a, l, hl, he, hc⟩ := h e w
  refine ⟨l, he, fun r hr => ?_⟩
  rw [hr] at hc
  exact hc.accounts hf (hvg.trans hv) hl

def formatOnly (fixArgs : List String) : Settings where
  logging := .default
  hook := .default
  tools := ⟨⟨true, "fmt", ["--check"], fixArgs⟩, ⟨false, "", [], []⟩, ⟨false, "", [], []⟩⟩
  policy := .default
  remediation := .default

def complaining : Host (WorldM Unit) where
  perform c := return .ok ⟨if "--check" ∈ c.args then some 1 else some 0, [], []⟩

def formErrand : Errand :=
  ⟨"form.ts", "id", none⟩

theorem ofSettings_delegates_formatOnly :
    (formatOnly ["--write"]).validate = .ok () ∧
      (formatOnly ["--write"]).remediation.revalidate = false ∧
      ∃ g g' r l, ofSettings complaining (formatOnly ["--write"]) = .ok g ∧
        ofSettings complaining.recorded (formatOnly ["--write"]) = .ok g' ∧
        (g'.marked.run formErrand [] (.start ())).1 = (.ok r, l) ∧ r.status = .success ∧
        g.Accounts (formatOnly ["--write"]).tools "form.ts" r l := by
  obtain ⟨g, g', hg, hg', h⟩ := ofSettings_delegates (formatOnly ["--write"]) rfl rfl complaining
  obtain ⟨l, hl, ha⟩ := h formErrand (.start ())
  have hr : ∃ r, (g.run formErrand (.start ())).1 = .ok r ∧ r.status = .success := by
    cases hg
    exact ⟨_, by with_unfolding_all rfl, rfl⟩
  obtain ⟨r, hr, hs⟩ := hr
  have hl' : (g'.marked.run formErrand [] (.start ())).1 = (.ok r, l) := by rw [hl, hr]
  exact ⟨rfl, rfl, g, g', r, l, hg, hg', hl', hs, ha r hr⟩

def unformatted : CheckReport :=
  ⟨false, ⟨some ⟨["Prettier reported problems (exit code 1)"]⟩, none, none⟩⟩

theorem not_all_fixed :
    ¬ ∀ s : Settings, s.validate = .ok () → s.remediation.revalidate = false →
      ∀ (host : Host (WorldM Unit)) (g : Gate (Recording Turn (WorldM Unit))),
        ofSettings host.recorded s = .ok g → ∀ e w r checks report rest,
          (g.marked.run e [] w).1 =
            (.ok r, .checkCalled e.file :: checks ++ .checkReturned (.ok report) :: rest) →
          ∀ tool, report.errors tool ≠ [] → r.status = .success →
            ∃ c : Completion, c.exitCode = some 0 ∧
              .performed ⟨(s.tools.get tool).program, (s.tools.get tool).fixArgs ++ [e.file]⟩ (.ok c) ∈
                checks ++ rest := by
  intro h
  obtain ⟨c, hc, hm⟩ := h (formatOnly []) rfl rfl complaining _ rfl formErrand (.start ()) _
    [.performed ⟨"fmt", ["--check", "form.ts"]⟩ (.ok ⟨some 1, [], []⟩)]
    unformatted [.fixCalled "form.ts" unformatted, .fixReturned (.ok ⟨true⟩)]
    (by with_unfolding_all rfl) .prettier (by decide) rfl
  obtain ⟨-, rfl⟩ : _ ∧ c = ⟨some 1, [], []⟩ := by simpa using hm
  cases hc

end Gate
end QualityGate
