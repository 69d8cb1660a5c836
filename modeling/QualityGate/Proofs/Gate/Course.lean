import QualityGate.Proofs.Decision
import QualityGate.Proofs.Gate.Transcript

namespace QualityGate

open Recording BlockingMessage

/-- The answers of one run: to the check, to the repair and to the check after it. There is none
where nothing was asked. -/
structure Answers where
  first : Except GateError CheckReport
  fix : Option (Except GateError FixResult)
  second : Option (Except GateError CheckReport)

section Records

variable (C : String → List Turn → Except GateError CheckReport → Prop)
  (F : String → CheckReport → List Turn → Except GateError FixResult → Prop) (file : String)

/-- What is recorded after the report of a check. -/
inductive ToldAfter (report : CheckReport) :
    Option (Except GateError FixResult) → Option (Except GateError CheckReport) →
      List Turn → Prop
  | nothing : ToldAfter report none none []
  | repair {l : List Turn} {answer : Except GateError FixResult} (hx : F file report l answer) :
      ToldAfter report (some answer) none l
  | recheck {l l' : List Turn} {answer : Except GateError FixResult}
      {again : Except GateError CheckReport} (hx : F file report l answer) (hc : C file l' again) :
      ToldAfter report (some answer) (some again) (l ++ l')

/-- What is recorded of a run. -/
inductive Answers.Told : Answers → List Turn → Prop
  | unchecked {l : List Turn} {e : GateError} (hc : C file l (.error e)) :
      Told ⟨.error e, none, none⟩ l
  | checked {l l' : List Turn} {report : CheckReport} {fix : Option (Except GateError FixResult)}
      {second : Option (Except GateError CheckReport)} (hc : C file l (.ok report))
      (hl : ToldAfter C F file report fix second l') : Told ⟨.ok report, fix, second⟩ (l ++ l')

end Records

namespace Gate

variable {m : Type → Type}

/-- The issues of a report count unless the check succeeded. -/
def counted (g : Gate m) (file : String) (report : CheckReport) : List Issue :=
  if report.success then [] else g.policy.issues file report

def outcomeIn (g : Gate m) (file : String) (report : CheckReport) : CheckOutcome :=
  .ofIssues file (g.counted file report) (!report.success)

def evaluation (g : Gate m) (file : String) (report : CheckReport) : Evaluation :=
  ⟨report, g.outcomeIn file report,
    if report.success then none else some (.ofIssues (g.policy.issues file report))⟩

theorem counted_of_not_success (g : Gate m) (file : String) {report : CheckReport}
    (h : report.success = false) : g.counted file report = g.policy.issues file report := by
  simp [counted, h]

theorem outcomeIn_of_success (g : Gate m) (file : String) {report : CheckReport}
    (h : report.success = true) : g.outcomeIn file report = .ofIssues file [] false := by
  simp [outcomeIn, counted, h]

theorem outcomeIn_of_not_success (g : Gate m) (file : String) {report : CheckReport}
    (h : report.success = false) : g.outcomeIn file report = g.policy.outcome file report := by
  simp [outcomeIn, counted, Policy.outcome, h]

section Courses

variable (g : Gate m) (file : String)

/-- A repair is trusted: the file is not to be checked again, or that check fails. -/
inductive Trusted : Option (Except GateError CheckReport) → Prop
  | unasked (hv : g.revalidate = false) : Trusted none
  | unanswered {e : GateError} (hv : g.revalidate = true) : Trusted (some (.error e))

/-- What comes of the answers to a repair and to the check after it. -/
inductive Attempt :
    Option (Except GateError FixResult) → Option (Except GateError CheckReport) → Remedy → Prop
  | failed {answer : Except GateError FixResult} (ha : answer ≠ .ok ⟨true⟩) :
      Attempt (some answer) none .failed
  | trusted {second : Option (Except GateError CheckReport)} (ht : Trusted g second) :
      Attempt (some (.ok ⟨true⟩)) second .resolved
  | rechecked {report : CheckReport} (hv : g.revalidate = true) :
      Attempt (some (.ok ⟨true⟩)) (some (.ok report))
        (.revalidated (g.outcomeIn file report) ((g.counted file report).filter Issue.fixable))

/-- How a decision about the issues of a report is carried out, by the answers to a repair and to
the check after it. -/
inductive Carried (report : CheckReport) (issues : List Issue) (d : Decision) :
    Option (Except GateError FixResult) → Option (Except GateError CheckReport) →
      HookReport → Prop
  | proceeds (hd : d.action = .proceed) : Carried report issues d none none
      ⟨.success, [.decided d.action issues.length], none, some d⟩
  | reports (hd : d.action = .reportOnly) : Carried report issues d none none
      ⟨.qualityIssues, [.decided d.action issues.length],
        some ⟨issuesText d.issues, some manualContext⟩, some d⟩
  | fails {answer : Except GateError FixResult} (hd : d.action.requiresFix = true)
      (ha : answer ≠ .ok ⟨true⟩) : Carried report issues d (some answer) none
      ⟨.qualityIssues, [.decided d.action issues.length, .autoFixing file, .autoFixFailed file],
        some ⟨(g.formatter report).getD (issuesText issues), some fixFailedContext⟩, some d⟩
  | settles {second : Option (Except GateError CheckReport)} (hd : d.action = .fixSilently)
      (ht : Trusted g second) : Carried report issues d (some (.ok ⟨true⟩)) second
      ⟨.success, [.decided d.action issues.length, .autoFixing file, .autoFixed file],
        none, some d⟩
  | leaves {second : Option (Except GateError CheckReport)} (hd : d.action = .fixAndReport)
      (ht : Trusted g second) : Carried report issues d (some (.ok ⟨true⟩)) second
      ⟨.qualityIssues, [.decided d.action issues.length, .autoFixing file],
        some ⟨issuesText d.issues, some remainingContext⟩, some d⟩
  | clears {report' : CheckReport} (hd : d.action.requiresFix = true) (hv : g.revalidate = true)
      (hn : g.counted file report' = []) :
      Carried report issues d (some (.ok ⟨true⟩)) (some (.ok report'))
        ⟨.success, [.decided d.action issues.length, .autoFixing file, .autoFixed file],
          none, some d⟩
  | remains {report' : CheckReport} (hd : d.action.requiresFix = true) (hv : g.revalidate = true)
      (hn : g.counted file report' ≠ []) :
      Carried report issues d (some (.ok ⟨true⟩)) (some (.ok report'))
        ⟨.qualityIssues, [.decided d.action issues.length, .autoFixing file],
          some ⟨issuesText (g.counted file report'), some remainingContext⟩, some d⟩

/-- What a run comes to by the answers of its collaborators. -/
inductive Course : Answers → Except GateError HookReport → Prop
  | unchecked (e : GateError) : Course ⟨.error e, none, none⟩ (.error e)
  | passed {report : CheckReport} (hs : report.success = true) :
      Course ⟨.ok report, none, none⟩ (.ok ⟨.success, [.checksPassed file], none, none⟩)
  | decided {report : CheckReport} {fix : Option (Except GateError FixResult)}
      {second : Option (Except GateError CheckReport)} {r : HookReport}
      (hs : report.success = false)
      (hr : Carried g file report (g.policy.issues file report)
        (.ofIssues (g.policy.issues file report)) fix second r) :
      Course ⟨.ok report, fix, second⟩ (.ok r)

end Courses

variable [Monad m] [Log.Journal m] [LawfulMonad m] {g : Gate m}
  {C : String → List Turn → Except GateError CheckReport → Prop}
  {F : String → CheckReport → List Turn → Except GateError FixResult → Prop}
  {checker : Checker (Recording Turn m)} {fixer : Fixer (Recording Turn m)}

theorem records_outcomeOf (file : String) (report : CheckReport) :
    Records (fun l o => l = [] ∧ o = g.outcomeIn file report)
      ((g.restaff checker fixer).outcomeOf file report) (g.outcomeOf file report) := by
  unfold outcomeOf
  cases hs : report.success with
  | true => exact .pure ⟨rfl, (g.outcomeIn_of_success file hs).symm⟩
  | false => exact .event_bind _ _ _ _ (.pure ⟨rfl, (g.outcomeIn_of_not_success file hs).symm⟩)

theorem records_recheck (hC : ∀ file, Records (C file) (checker.check file) (g.checker.check file))
    (file : String) :
    Records (fun l a => (∃ e, C file l (.error e) ∧ a = .resolved) ∨
        ∃ report, C file l (.ok report) ∧ a = .revalidated (g.outcomeIn file report)
          ((g.counted file report).filter Issue.fixable))
      ((g.restaff checker fixer).recheck file) (g.recheck file) := by
  refine (hC file).bind fun l a hc => ?_
  cases a with
  | error e =>
    refine .event_bind _ _ _ _ (.pure ?_)
    exact .inl ⟨e, by simpa using hc, rfl⟩
  | ok report =>
    refine (records_outcomeOf file report).bind fun l' o ho => ?_
    obtain ⟨rfl, rfl⟩ := ho
    refine .ite (fun _ => .event_bind _ _ _ _ ?_) (fun _ => ?_) <;>
      exact .event_bind _ _ _ _ (.pure (.inr ⟨report, by simpa using hc, rfl⟩))

theorem records_remediate
    (hC : ∀ file, Records (C file) (checker.check file) (g.checker.check file))
    (hF : ∀ file report, Records (F file report) (fixer.fix file report) (g.fixer.fix file report))
    (file : String) (report : CheckReport) :
    Records (fun l remedy => ∃ fix second, ToldAfter C F file report fix second l ∧
        Attempt g file fix second remedy)
      ((g.restaff checker fixer).remediate file report) (g.remediate file report) := by
  refine .event_bind _ _ _ _ ((hF file report).bind fun l a hx => ?_)
  match a with
  | .error e =>
    refine .event_bind _ _ _ _ (.pure ?_)
    exact ⟨some (.error e), none, .repair (by simpa using hx), .failed nofun⟩
  | .ok ⟨false⟩ =>
    refine .event_bind _ _ _ _ (.pure ?_)
    exact ⟨some (.ok ⟨false⟩), none, .repair (by simpa using hx), .failed nofun⟩
  | .ok ⟨true⟩ =>
    refine .event_bind _ _ _ _ (.ite (fun hv => ?_) (fun hv => ?_))
    · refine (records_recheck hC file).mono fun l' remedy hr => ?_
      obtain ⟨e, hc, rfl⟩ | ⟨report', hc, rfl⟩ := hr
      · exact ⟨_, _, .recheck hx hc, .trusted (.unanswered hv)⟩
      · exact ⟨_, _, .recheck hx hc, .rechecked hv⟩
    · have hv' : g.revalidate = false := by simpa using hv
      exact .pure ⟨_, _, .repair (by simpa using hx), .trusted (.unasked hv')⟩

theorem records_settle_resolved (draft : Draft) (d : Decision) (e : Evaluation) :
    Records (fun l r => l = [] ∧ r = if d.action = .fixAndReport
          then draft.block (issuesText d.issues) remainingContext
          else (draft.narrate (.autoFixed e.outcome.filePath)).succeed)
      ((g.restaff checker fixer).settle draft d e .resolved) (g.settle draft d e .resolved) := by
  refine .ite (fun hd => .event_bind _ _ _ _ (.pure ⟨rfl, ?_⟩)) (fun hd => .pure ⟨rfl, ?_⟩)
  · rw [if_pos hd]
  · rw [if_neg hd]

theorem records_settle_revalidated (draft : Draft) (d : Decision) (e : Evaluation)
    (o : CheckOutcome) (unresolved : List Issue) :
    Records (fun l r => l = [] ∧ r = if o.issues = []
          then (draft.narrate (.autoFixed e.outcome.filePath)).succeed
          else draft.block (issuesText o.issues) remainingContext)
      ((g.restaff checker fixer).settle draft d e (.revalidated o unresolved))
      (g.settle draft d e (.revalidated o unresolved)) := by
  refine .ite (fun hn => .pure ⟨rfl, ?_⟩) (fun hn => .event_bind _ _ _ _ (.pure ⟨rfl, ?_⟩))
  · rw [if_pos (List.isEmpty_iff.mp hn)]
  · rw [if_neg (hn ∘ List.isEmpty_iff.mpr)]

theorem records_carryOut
    (hC : ∀ file, Records (C file) (checker.check file) (g.checker.check file))
    (hF : ∀ file report, Records (F file report) (fixer.fix file report) (g.fixer.fix file report))
    (file : String) (report : CheckReport) (d : Decision) :
    Records (fun l r => ∃ fix second, ToldAfter C F file report fix second l ∧
        Carried g file report (g.counted file report) d fix second r)
      ((g.restaff checker fixer).carryOut file (g.evaluation file report) d)
      (g.carryOut file (g.evaluation file report) d) := by
  refine .ite (fun hd => ?_) (fun hd => .ite (fun hr => ?_) (fun hr => ?_))
  · refine (records_remediate hC hF file report).bind fun l remedy ha => ?_
    obtain ⟨fix, second, hl, ha⟩ := ha
    cases ha with
    | failed ha => exact .pure ⟨_, _, by simpa using hl, .fails hd ha⟩
    | trusted ht =>
      refine (records_settle_resolved _ _ _).mono fun l' r hr => ?_
      obtain ⟨rfl, rfl⟩ := hr
      refine ⟨_, _, by simpa using hl, ?_⟩
      -- of the decisions that ask for a repair only this one keeps unfixable issues
      by_cases ha : d.action = .fixAndReport
      · rw [if_pos ha]
        exact .leaves ha ht
      · rw [if_neg ha]
        exact .settles (Action.eq_fixSilently hd ha) ht
    | rechecked hv =>
      refine (records_settle_revalidated _ _ _ _ _).mono fun l' r hr => ?_
      obtain ⟨rfl, rfl⟩ := hr
      refine ⟨_, _, by simpa using hl, ?_⟩
      split
      · exact .clears hd hv ‹_›
      · exact .remains hd hv ‹_›
  · exact .event_bind _ _ _ _ (.pure ⟨_, _, .nothing, .reports hr⟩)
  · exact .event_bind _ _ _ _ (.pure ⟨_, _, .nothing, .proceeds (Action.eq_proceed hd hr)⟩)

theorem records_assess
    (hC : ∀ file, Records (C file) (checker.check file) (g.checker.check file)) (file : String) :
    Records (fun l a => ∃ answer, C file l answer ∧ a = answer.map (g.evaluation file))
      ((g.restaff checker fixer).assess file) (g.assess file) := by
  refine .event_bind _ _ _ _ ((hC file).bind fun l a hc => ?_)
  cases a with
  | error e => exact .pure ⟨.error e, by simpa using hc, rfl⟩
  | ok report =>
    refine (records_outcomeOf file report).bind fun l' o ho => ?_
    obtain ⟨rfl, rfl⟩ := ho
    refine .event_bind _ _ _ _ (.ite (fun hs => ?_) (fun hs => ?_))
    · exact .pure ⟨.ok report, by simpa using hc, by simp [Except.map, evaluation, hs]⟩
    · refine .event_bind _ _ _ _ (.pure ⟨.ok report, by simpa using hc, ?_⟩)
      simp [Except.map, evaluation, outcomeIn, counted, Decision.ofOutcome, CheckOutcome.ofIssues,
        hs]

theorem records_process
    (hC : ∀ file, Records (C file) (checker.check file) (g.checker.check file))
    (hF : ∀ file report, Records (F file report) (fixer.fix file report) (g.fixer.fix file report))
    (file : String) :
    Records (fun l result => ∃ a : Answers, a.Told C F file l ∧ Course g file a result)
      ((g.restaff checker fixer).process file) (g.process file) := by
  refine (records_assess hC file).bind fun l a ha => ?_
  obtain ⟨answer, hc, rfl⟩ := ha
  cases answer with
  | error e => exact .pure ⟨_, .unchecked (by simpa using hc), .unchecked e⟩
  | ok report =>
    cases hs : report.success with
    | true =>
      have hd : (g.evaluation file report).decision = none := by simp [evaluation, hs]
      simp only [Except.map, hd, pure_bind]
      exact .event_bind _ _ _ _ (.pure ⟨_, .checked hc .nothing, .passed hs⟩)
    | false =>
      have hd : (g.evaluation file report).decision =
          some (.ofIssues (g.policy.issues file report)) := by simp [evaluation, hs]
      simp only [Except.map, hd]
      refine (records_carryOut hC hF file report _).bind fun l' r hr => ?_
      obtain ⟨fix, second, hl, hr⟩ := hr
      rw [g.counted_of_not_success file hs] at hr
      exact .event_bind _ _ _ _ (.pure ⟨_, .checked hc (by simpa using hl), .decided hs hr⟩)

theorem records_run [Log.LawfulJournal m]
    (hC : ∀ file, Records (C file) (checker.check file) (g.checker.check file))
    (hF : ∀ file report, Records (F file report) (fixer.fix file report) (g.fixer.fix file report))
    (e : Errand) :
    Records (fun l result => ∃ a : Answers, a.Told C F e.file l ∧ Course g e.file a result)
      ((g.restaff checker fixer).run e) (g.run e) :=
  (records_process hC hF e.file).within e.span

theorem records_evaluate [Log.LawfulJournal m]
    (hC : ∀ file, Records (C file) (checker.check file) (g.checker.check file)) (e : Errand) :
    Records (fun l a => ∃ answer, C e.file l answer ∧ a = answer.map (g.evaluation e.file))
      ((g.restaff checker fixer).evaluate e) (g.evaluate e) :=
  (records_assess hC e.file).within e.span

end Gate
end QualityGate
