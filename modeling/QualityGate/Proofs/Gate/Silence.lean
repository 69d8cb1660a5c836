import QualityGate.Proofs.Gate.Delegation
import QualityGate.Proofs.Gate.Listed
import QualityGate.Proofs.Gate.Protocol
import QualityGate.Proofs.Report.Blocking

namespace QualityGate

open Log Text BlockingMessage

/-- The error says something, and it fits on a line. -/
structure SpokenLine (error : String) : Prop where
  no_feed : '\n' ∉ error.toList
  not_blank : Blank.isBlankText error = false

/-- All errors of a report are lines that say something. -/
def CheckReport.Spoken (report : CheckReport) : Prop :=
  ∀ tool, ∀ error ∈ report.errors tool, SpokenLine error

theorem SpokenLine.isIssueLine_eq_false_iff {line : String} (h : SpokenLine line) :
    isIssueLine line.toList = false ↔ issuesHeader.toList <:+: line.toList := by
  have hb : ∃ c ∈ line.toList, Blank.isBlank c = false := by
    have hl := h.not_blank
    rw [Blank.isBlankText, List.all_eq_false] at hl
    simpa using hl
  rw [Bool.eq_false_iff, ne_eq, isIssueLine_iff]
  simp [hb]

namespace Gate

section Lines

variable {p : Policy} {file : String} {report : CheckReport} {action : Action}
  {fix : Option (Except GateError FixResult)} {second : Option (Except GateError CheckReport)}
  {lines : List String} {context reason : String}

theorem spokenLine_of_mem_issues (h : report.Spoken) {i : Issue}
    (hi : i ∈ p.issues file report) : SpokenLine i.displayText := by
  obtain ⟨tool, error, he, rfl⟩ := (Policy.mem_issues_iff ..).mp hi
  have hl : SpokenLine error := h tool error he
  have hm : (p.issue file tool error).message = error := rfl
  rwa [Issue.displayText, hm, if_neg (by simp [hl.not_blank])]

theorem spokenLine_of_mem_entries (h : report.Spoken) {l : String}
    (hl : l ∈ ErrorList.entries report) : SpokenLine l := by
  obtain ⟨tool, error, he, rfl⟩ := ErrorList.exists_of_mem_entries hl
  exact ⟨ErrorList.not_mem_entry (h tool error he).no_feed tool,
    ErrorList.not_blank_entry tool error⟩

theorem Listed.spokenLine (h : Listed p file report action fix second lines context)
    (hr : report.Spoken) (hr' : ∀ again, second = some (.ok again) → again.Spoken) :
    ∀ l ∈ lines, SpokenLine l :=
  h.forall_mem (fun _ => spokenLine_of_mem_issues hr) (fun _ => spokenLine_of_mem_entries hr)
    fun again ha _ => spokenLine_of_mem_issues (hr' again ha)

theorem Listed.context_line (h : Listed p file report action fix second lines context) :
    '\n' ∉ context.toList := by
  cases h <;> decide

theorem Worded.issueLines_eq_nil_iff (h : Worded lines reason) (hl : ∀ l ∈ lines, SpokenLine l)
    (context : Option String) :
    BlockingMessage.issueLines ⟨reason, context⟩ = [] ↔
      ∀ l ∈ lines, issuesHeader.toList <:+: l.toList := by
  have hi : (∀ l ∈ lines, isIssueLine l.toList = false) ↔
      ∀ l ∈ lines, issuesHeader.toList <:+: l.toList :=
    forall₂_congr fun l hm => (hl l hm).isIssueLine_eq_false_iff
  have hn : ∀ l ∈ lines, '\n' ∉ l.toList := fun l hm => (hl l hm).no_feed
  rw [← hi]
  cases h with
  | entries _ => exact BlockingMessage.issueLines_eq_nil_iff context hn
  | issues issues =>
    by_cases he : issues = []
    · subst he
      exact iff_of_true (issueLines_issuesText_nil context) (by simp)
    · have hh : isIssueLine issuesHeader.toList = false := by decide
      have h0 : isIssueLine "".toList = false := by decide
      have hf : ∀ l ∈ issuesHeader :: "" :: issues.map Issue.displayText, '\n' ∉ l.toList := by
        simpa [issuesHeader] using hn
      rw [issuesText_eq he, BlockingMessage.issueLines_eq_nil_iff context hf,
        List.forall_mem_cons, List.forall_mem_cons, and_iff_right hh, and_iff_right h0]

/-- The text of a blocked run has a numbered line exactly if one of the lines to list does not hold
the header of a list of issues. There is always a line to list. -/
def NumbersUnlessHeader (p : Policy) (file : String) (a : Answers) (r : HookReport) : Prop :=
  ∃ report d text lines context, a.first = .ok report ∧ r.decision = some d ∧
    r.blockingText = some text ∧
    Listed p file report d.action a.fix a.second lines context ∧ lines ≠ [] ∧
    ((∃ line ∈ Lines.lines text.toList, IsNumbered line) ↔
      ∃ line ∈ lines, ¬ issuesHeader.toList <:+: line.toList)

theorem Worded.exists_isNumbered_iff (hw : Worded lines reason) (hl : ∀ l ∈ lines, SpokenLine l)
    (h : Listed p file report action fix second lines context) :
    (∃ line ∈ Lines.lines (BlockingMessage.render ⟨reason, some context⟩).toList,
        IsNumbered line) ↔
      ∃ line ∈ lines, ¬ issuesHeader.toList <:+: line.toList := by
  have hc : ∀ c ∈ some context, '\n' ∉ c.toList := by
    rintro c ⟨⟩
    exact h.context_line
  rw [exists_isNumbered_render _ hc, ne_eq, hw.issueLines_eq_nil_iff hl]
  push Not
  rfl

end Lines

theorem CheckedBy.spoken {settings : ToolsSettings} {file : String} {l : List Turn}
    {report : CheckReport} (h : CheckedBy settings file l (.ok report)) : report.Spoken := by
  obtain ⟨checks, hc, -⟩ := h
  intro tool error he
  exact ⟨hc.not_mem_errors he, (hc.sound (Toolbox.sound_clean settings)).told tool error he⟩

theorem Course.numbersUnlessHeader {σ : Type} {g : Gate (WorldM σ)} {settings : ToolsSettings}
    {file : String} {a : Answers} {l : List Turn} {r : HookReport}
    (hf : g.formatter = ErrorList.text?)
    (hl : a.Told (CheckedBy settings) (RepairedBy settings) file l)
    (h : Course g file a (.ok r)) (hb : r.status = .qualityIssues) :
    NumbersUnlessHeader g.policy file a r := by
  cases hl with
  | unchecked _ => cases h
  | @checked _ _ report fix second hc hx =>
    cases h with
    | passed _ => cases hb
    | decided _ hr =>
      obtain ⟨reason, lines, context, hm, hlisted, hw, hn⟩ := hr.listed hf hb
      have hs : ∀ again, second = some (.ok again) → again.Spoken := by
        rintro again rfl
        cases hx with
        | recheck _ hc' => exact hc'.spoken
      have hspoken := hlisted.spokenLine hc.spoken hs
      refine ⟨report, _, _, lines, context, rfl, hr.decision_eq, ?_, hlisted, hn,
        hw.exists_isNumbered_iff hspoken hlisted⟩
      rw [HookReport.blockingText, hm, Option.map_some]

variable {σ : Type}

/-- The text of a run that is blocked over what the tools of the settings say numbers something, if
not all that it has to list holds the header of a list of issues. -/
theorem ofSettings_numbers (s : Settings) (hs : s.validate = .ok ()) (host : Host (WorldM σ)) :
    ∃ g g', ofSettings host s = .ok g ∧ ofSettings host.recorded s = .ok g' ∧
      ∀ e w, ∃ a l, a.Told (CheckedBy s.tools) (RepairedBy s.tools) e.file l ∧
        g'.marked.run e [] w = (((g.run e w).1, l), (g.run e w).2) ∧
        ∀ r, (g.run e w).1 = .ok r → r.status = .qualityIssues →
          NumbersUnlessHeader g.policy e.file a r := by
  obtain ⟨g, g', hg, hg', hf, -, h⟩ := exists_course s hs host
  refine ⟨g, g', hg, hg', fun e w => ?_⟩
  obtain ⟨a, l, hl, he, hc⟩ := h e w
  refine ⟨a, l, hl, he, fun r hr hb => ?_⟩
  rw [hr] at hc
  exact hc.numbersUnlessHeader hf hl hb

def typesOnly : Settings where
  logging := .default
  hook := .default
  tools := ⟨⟨false, "", [], []⟩, ⟨false, "", [], []⟩, ⟨true, "tsc", ["--noEmit"], []⟩⟩
  policy := .default
  remediation := .default

/-- On this host every command fails with the same words. -/
def grumbling (words : String) : Host (WorldM Unit) where
  perform _ := return .ok ⟨some 2, Utf8.encode words, []⟩

def typesGate (words : String) : Gate (WorldM Unit) :=
  ⟨Toolbox.checker (grumbling words) typesOnly.tools,
    Toolbox.fixer (grumbling words) typesOnly.tools, ErrorList.text?, .default,
    typesOnly.remediation.revalidate⟩

def bannerErrand : Errand :=
  ⟨"banner.ts", "id", none⟩

/-- The file holds the header itself, and the type checker quotes it. -/
def bannerError : String :=
  "banner.ts(2,5): error TS2322: \"❌ Quality issues found:\""

theorem run_banner : ∃ r, ((typesGate bannerError).run bannerErrand (.start ())).1 = .ok r ∧
    r.status = .qualityIssues ∧
    r.blocking = some ⟨issuesText [⟨Rule.typescript, bannerError, "banner.ts", false⟩],
      some manualContext⟩ := by
  have h : ((typesGate bannerError).run bannerErrand (.start ())).1.map
      (fun r => (r.status, r.blocking)) =
        .ok (.qualityIssues, some ⟨issuesText [⟨Rule.typescript, bannerError, "banner.ts", false⟩],
          some manualContext⟩) := by decide +kernel
  cases hr : ((typesGate bannerError).run bannerErrand (.start ())).1 with
  | error e =>
    rw [hr] at h
    cases h
  | ok r =>
    rw [hr] at h
    obtain ⟨hs, hb⟩ := Prod.mk.inj (Except.ok.inj h)
    exact ⟨r, rfl, hs, hb⟩

theorem ofSettings_numbers_banner :
    typesOnly.validate = .ok () ∧ ∃ g r a, ofSettings (grumbling bannerError) typesOnly = .ok g ∧
      (g.run bannerErrand (.start ())).1 = .ok r ∧ r.status = .qualityIssues ∧
      NumbersUnlessHeader g.policy "banner.ts" a r := by
  obtain ⟨g, g', hg, -, h⟩ := ofSettings_numbers typesOnly rfl (grumbling bannerError)
  obtain ⟨a, l, -, -, ha⟩ := h bannerErrand (.start ())
  obtain ⟨r, hr, hs, -⟩ := run_banner
  obtain rfl : typesGate bannerError = g := Except.ok.inj hg
  exact ⟨rfl, _, r, a, hg, hr, hs, ha r hr hs⟩

/-- A text can be silent: the only line it has to list holds the header. -/
theorem not_all_numbered :
    ¬ ∀ s : Settings, s.validate = .ok () → ∀ (host : Host (WorldM Unit)) (g : Gate (WorldM Unit)),
      ofSettings host s = .ok g → ∀ e w r, (g.run e w).1 = .ok r → r.status = .qualityIssues →
        ∃ text, r.blockingText = some text ∧
          ∃ line ∈ Lines.lines text.toList, IsNumbered line := by
  intro h
  obtain ⟨r, hr, hs, hb⟩ := run_banner
  obtain ⟨text, ht, hn⟩ := h typesOnly rfl (grumbling bannerError) (typesGate bannerError) rfl
    bannerErrand (.start ()) r hr hs
  have hc : ∀ c ∈ some manualContext, '\n' ∉ c.toList := by
    rintro c ⟨⟩
    decide
  rw [HookReport.blockingText, hb] at ht
  obtain rfl := Option.some.inj ht
  have hl : BlockingMessage.issueLines ⟨issuesText
      [⟨Rule.typescript, bannerError, "banner.ts", false⟩], some manualContext⟩ = [] := by
    decide +kernel
  exact (exists_isNumbered_render _ hc).mp hn hl

end Gate
end QualityGate
