import QualityGate.Proofs.Gate.Listed
import QualityGate.Proofs.Gate.Protocol
import QualityGate.Proofs.Report.Listing

namespace QualityGate

open Log BlockingMessage

def PlainChecks (l : List Turn) : Prop :=
  ∀ report, .checkReturned (.ok report) ∈ l → report.Plain

theorem Answers.mem_turns_first {a : Answers} {report : CheckReport} (file : String)
    (h : a.first = .ok report) : .checkReturned (.ok report) ∈ a.turns file := by
  simp [Answers.turns, checkTurns, h]

theorem Answers.mem_turns_second {a : Answers} {report : CheckReport} (file : String)
    (h : a.second = some (.ok report)) : .checkReturned (.ok report) ∈ a.turns file := by
  simp [Answers.turns, checkTurns, h]

namespace Gate

section Lines

variable {p : Policy} {file : String} {report : CheckReport} {action : Action}
  {fix : Option (Except GateError FixResult)} {second : Option (Except GateError CheckReport)}
  {lines : List String} {context reason : String}

theorem Listed.listable (h : Listed p file report action fix second lines context)
    (hp : report.Plain) (hp' : ∀ again, second = some (.ok again) → again.Plain) :
    ∀ l ∈ lines, Listable l :=
  h.forall_mem (hp.listable_issues p file) hp.listable_entries fun again ha =>
    (hp' again ha).listable_issues p file

theorem Listed.context_head (h : Listed p file report action fix second lines context) :
    context.toList.head? ∈ [some 'Q', some 'A', some 'S'] := by
  cases h <;> decide

theorem Worded.reason_head (h : Worded lines reason) :
    reason.toList.head? ∈ [some '❌', some 'P', some 'E', some 'T'] := by
  cases h with
  | issues issues => simp [head_issuesText]
  | entries he =>
    obtain ⟨tool, ht⟩ := ErrorList.head_intercalate he
    rw [ht]
    cases tool <;> simp [Tool.label]

theorem Worded.issueLines (h : Worded lines reason) (hl : ∀ l ∈ lines, Listable l)
    (context : Option String) : BlockingMessage.issueLines ⟨reason, context⟩ = lines := by
  cases h with
  | issues issues => exact issueLines_issuesText context (by simpa using hl)
  | entries he => exact issueLines_of_listable context hl

/-- The message that blocks a run lists the given lines and gives the given context. -/
structure Displays (m : BlockingMessage) (lines : List String) (context : String) : Prop where
  lists : m.issueLines = lines
  explains : m.context = some context
  reads : m.render = "\n".intercalate (layout lines (some context) ++ [""])

theorem Worded.displays (hw : Worded lines reason) (hl : ∀ l ∈ lines, Listable l)
    (h : Listed p file report action fix second lines context) :
    Displays ⟨reason, some context⟩ lines context where
  lists := hw.issueLines hl _
  explains := rfl
  reads := by
    have hne : context ≠ reason := by
      rintro rfl
      have hr := hw.reason_head
      have hc := h.context_head
      simp only [List.mem_cons, List.not_mem_nil, or_false] at hr hc
      rcases hc with hc | hc | hc <;> simp [hc] at hr
    rw [render_eq, hw.issueLines hl, shownContext_of_ne hne]

end Lines

variable {σ : Type}

/-- When the checks of a blocked run found plain errors only, the message lists exactly what it has
to list, in order, and numbers it in the text. -/
theorem run_lists (g : Gate (WorldM σ)) (hf : g.formatter = ErrorList.text?) (e : Errand)
    (w : World σ) :
    ∃ a : Answers, g.recorded.run e [] w = (((g.run e w).1, a.turns e.file), (g.run e w).2) ∧
      ∀ r, (g.run e w).1 = .ok r → r.status = .qualityIssues → PlainChecks (a.turns e.file) →
        ∃ report d message lines context, a.first = .ok report ∧ r.decision = some d ∧
          r.blocking = some message ∧
          Listed g.policy e.file report d.action a.fix a.second lines context ∧
          Displays message lines context := by
  obtain ⟨a, he, hc⟩ := g.exists_answers e w
  refine ⟨a, he, fun r hr hb hp => ?_⟩
  rw [hr] at hc
  cases hc with
  | passed _ => cases hb
  | @decided report _ second _ hs hr' =>
    have hfirst : report.Plain := hp report (Answers.mem_turns_first e.file rfl)
    have hsecond : ∀ again, second = some (.ok again) → again.Plain :=
      fun again h => hp again (Answers.mem_turns_second e.file h)
    obtain ⟨reason, lines, context, hm, hl, hw, -⟩ := hr'.listed hf hb
    have hd := hw.displays (hl.listable hfirst hsecond) hl
    exact ⟨report, _, _, lines, context, rfl, hr'.decision_eq, hm, hl, hd⟩

def partlyBlank : CheckReport :=
  ⟨false, ⟨none, some ⟨["", " 1:7 Missing semicolon. (semi)"]⟩, none⟩⟩

theorem plain_partlyBlank : partlyBlank.Plain := by
  intro tool error he
  cases tool with
  | prettier | typescript => cases he
  | eslint =>
    obtain rfl | rfl : error = "" ∨ error = " 1:7 Missing semicolon. (semi)" := by
      simpa [CheckReport.errors, ToolReports.errors, ToolReports.get, partlyBlank] using he
    · exact ⟨by decide, by decide, by decide⟩
    · exact ⟨by decide, by decide, by decide⟩

def hopeless (report : CheckReport) : Gate (WorldM Unit) :=
  ⟨⟨fun _ => return .ok report⟩, ⟨fun _ _ => return .ok ⟨false⟩⟩, ErrorList.text?, .default, true⟩

def hopelessAnswers (report : CheckReport) : Answers :=
  ⟨.ok report, some (.ok ⟨false⟩), none⟩

theorem run_lists_partlyBlank :
    (hopeless partlyBlank).formatter = ErrorList.text? ∧
      PlainChecks ((hopelessAnswers partlyBlank).turns "form.ts") ∧
      ∃ r message w, (hopeless partlyBlank).recorded.run ⟨"form.ts", "id", none⟩ [] (.start ()) =
          ((.ok r, (hopelessAnswers partlyBlank).turns "form.ts"), w) ∧
        r.status = .qualityIssues ∧ r.blocking = some message ∧
        Displays message ["ESLint: 1:7 Missing semicolon. (semi)"] fixFailedContext := by
  have hp : PlainChecks ((hopelessAnswers partlyBlank).turns "form.ts") := by
    intro report hr
    have he : report = partlyBlank := by
      simpa [Answers.turns, hopelessAnswers, checkTurns, fixTurns] using hr
    exact he ▸ plain_partlyBlank
  obtain ⟨r, message, w, hr, hs, hm, hl, hc⟩ : ∃ r message w,
      (hopeless partlyBlank).recorded.run ⟨"form.ts", "id", none⟩ [] (.start ()) =
          ((.ok r, (hopelessAnswers partlyBlank).turns "form.ts"), w) ∧
        r.status = .qualityIssues ∧ r.blocking = some message ∧
        message.issueLines = ["ESLint: 1:7 Missing semicolon. (semi)"] ∧
        message.context = some fixFailedContext :=
    ⟨_, _, _, by with_unfolding_all rfl, rfl, rfl, by decide, rfl⟩
  obtain ⟨a, he, h⟩ := run_lists (hopeless partlyBlank) rfl ⟨"form.ts", "id", none⟩ (.start ())
  rw [hr] at he
  obtain ⟨⟨hr', ha⟩, -⟩ := (Prod.mk.inj he).imp_left Prod.mk.inj
  obtain ⟨_, _, message', lines, context, _, _, hm', _, hx⟩ := h r hr'.symm hs (ha ▸ hp)
  obtain rfl : message = message' := Option.some.inj (hm.symm.trans hm')
  obtain rfl : _ = lines := hl.symm.trans hx.lists
  obtain rfl : _ = context := Option.some.inj (hc.symm.trans hx.explains)
  exact ⟨rfl, hp, r, message, w, hr, hs, hm, hx⟩

end Gate
end QualityGate
