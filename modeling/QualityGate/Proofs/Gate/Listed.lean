import QualityGate.Proofs.Gate.Course
import QualityGate.Proofs.Diagnostic.Policy
import QualityGate.Proofs.Report.ErrorList
import Mathlib.Data.List.Forall2

namespace QualityGate

open Text BlockingMessage

/-- The text that stands for an issue in a list. -/
inductive Issue.ShownAs (i : Issue) : String → Prop
  | message (hb : ¬ Blank.Stripped i.message.toList []) : i.ShownAs i.message
  | rule (hb : Blank.Stripped i.message.toList []) : i.ShownAs i.rule

theorem Issue.shownAs_iff (i : Issue) (line : String) : i.ShownAs line ↔ line = i.displayText := by
  unfold displayText
  constructor
  · rintro (hb | hb)
    · rw [if_neg (mt (Blank.isBlankText_iff _).mp hb)]
    · rw [if_pos ((Blank.isBlankText_iff _).mpr hb)]
  · rintro rfl
    split
    · exact .rule ((Blank.isBlankText_iff _).mp ‹_›)
    · exact .message (mt (Blank.isBlankText_iff _).mpr ‹_›)

theorem forall₂_shownAs_iff {issues : List Issue} {lines : List String} :
    List.Forall₂ Issue.ShownAs issues lines ↔ lines = issues.map Issue.displayText := by
  have hr : Issue.ShownAs = fun i line => i.displayText = line :=
    funext₂ fun i line => propext ((i.shownAs_iff line).trans eq_comm)
  rw [hr, ← List.forall₂_map_left_iff, List.forall₂_eq_eq_eq, eq_comm]

namespace Gate

/-- What the agent is given to work on in a blocked run, and in which context: it follows from the
action, the answers to a repair and to the check after it, and what the checks reported. -/
inductive Listed (p : Policy) (file : String) (report : CheckReport) :
    Action → Option (Except GateError FixResult) → Option (Except GateError CheckReport) →
      List String → String → Prop
  | byHand {lines : List String} (hl : List.Forall₂ Issue.ShownAs (p.issues file report) lines) :
      Listed p file report .reportOnly none none lines "Quality issues require manual intervention"
  | failed {action : Action} {answer : Except GateError FixResult} {lines : List String}
      (ha : answer ≠ .ok ⟨true⟩) (hl : report.LabelledAs lines) (hn : lines ≠ []) :
      Listed p file report action (some answer) none lines
        "Auto-fix failed, quality issues need attention"
  | failedBlank {action : Action} {answer : Except GateError FixResult} {lines : List String}
      (ha : answer ≠ .ok ⟨true⟩) (hb : report.LabelledAs [])
      (hl : List.Forall₂ Issue.ShownAs (p.issues file report) lines) :
      Listed p file report action (some answer) none lines
        "Auto-fix failed, quality issues need attention"
  | left {second : Option (Except GateError CheckReport)} {lines : List String}
      (ht : ∀ again, second ≠ some (.ok again))
      (hl : List.Forall₂ Issue.ShownAs ((p.issues file report).filter (!·.fixable)) lines) :
      Listed p file report .fixAndReport (some (.ok ⟨true⟩)) second lines
        "Some issues remain after auto-fix"
  | again {action : Action} {report' : CheckReport} {lines : List String}
      (hs : report'.success = false)
      (hl : List.Forall₂ Issue.ShownAs (p.issues file report') lines) :
      Listed p file report action (some (.ok ⟨true⟩)) (some (.ok report')) lines
        "Some issues remain after auto-fix"

/-- How the lines stand in the reason of a message: as a list of issues, or as entries that name
their tools. -/
inductive Worded : List String → String → Prop
  | issues (issues : List Issue) : Worded (issues.map Issue.displayText) (issuesText issues)
  | entries {report : CheckReport} (he : ErrorList.entries report ≠ []) :
      Worded (ErrorList.entries report) ("\n".intercalate (ErrorList.entries report))

variable {m : Type → Type} {g : Gate m} {file : String} {report : CheckReport}
  {fix : Option (Except GateError FixResult)} {second : Option (Except GateError CheckReport)}
  {r : HookReport}

theorem Listed.forall_mem {p : Policy} {action : Action} {lines : List String} {context : String}
    {P : String → Prop} (h : Listed p file report action fix second lines context)
    (hi : ∀ i ∈ p.issues file report, P i.displayText)
    (he : ∀ l ∈ ErrorList.entries report, P l)
    (hi' : ∀ again, second = some (.ok again) → ∀ i ∈ p.issues file again, P i.displayText) :
    ∀ l ∈ lines, P l := by
  have hshown : ∀ {issues : List Issue} {lines : List String},
      List.Forall₂ Issue.ShownAs issues lines → (∀ i ∈ issues, P i.displayText) →
        ∀ l ∈ lines, P l := by
    intro issues lines hl hp
    rw [forall₂_shownAs_iff.mp hl]
    exact List.forall_mem_map.mpr hp
  cases h with
  | byHand hl => exact hshown hl hi
  | failed _ hl _ => exact (ErrorList.labelledAs_iff report _).mp hl ▸ he
  | failedBlank _ _ hl => exact hshown hl hi
  | left _ hl => exact hshown hl fun i hm => hi i (List.mem_filter.mp hm).1
  | again _ hl => exact hshown hl (hi' _ rfl)

theorem Trusted.ne_ok (h : Trusted g second) (again : CheckReport) :
    second ≠ some (.ok again) := by
  cases h with
  | unasked _ => simp
  | unanswered _ => simp

theorem success_of_counted_ne_nil {report' : CheckReport} (h : g.counted file report' ≠ []) :
    report'.success = false := by
  by_contra hs
  simp [counted, hs] at h

/-- The message of a blocked run is put together from the lines that are to be listed, of which
there is one at least. -/
theorem Carried.listed (hf : g.formatter = ErrorList.text?)
    (h : Carried g file report (g.policy.issues file report)
      (.ofIssues (g.policy.issues file report)) fix second r)
    (hb : r.status = .qualityIssues) :
    ∃ reason lines context, r.blocking = some ⟨reason, some context⟩ ∧
      Listed g.policy file report (Decision.ofIssues (g.policy.issues file report)).action fix
        second lines context ∧ Worded lines reason ∧ lines ≠ [] := by
  cases h with
  | proceeds _ | settles _ _ | clears _ _ _ => cases hb
  | reports hd =>
    have hn : g.policy.issues file report ≠ [] := by
      rw [ne_eq, ← Decision.action_eq_proceed_iff, hd]
      decide
    have hl : Listed g.policy file report .reportOnly none none _ manualContext :=
      .byHand (forall₂_shownAs_iff.mpr rfl)
    refine ⟨_, _, _, rfl, by rwa [hd], ?_, by simpa using hn⟩
    rw [Decision.issues_of_reportOnly hd]
    exact .issues _
  | fails hd ha =>
    by_cases he : ErrorList.entries report = []
    · obtain ⟨i, hi, -⟩ := (Decision.requiresFix_iff _).mp hd
      have hn := List.ne_nil_of_mem hi
      refine ⟨_, _, _, rfl, .failedBlank ha ((ErrorList.labelledAs_iff report _).mpr he.symm)
        (forall₂_shownAs_iff.mpr rfl), ?_, by simpa using hn⟩
      rw [hf, ErrorList.text?_eq_none he]
      exact .issues _
    · refine ⟨_, _, _, rfl, .failed ha ((ErrorList.labelledAs_iff report _).mpr rfl) he, ?_, he⟩
      rw [hf, ErrorList.text?_eq_some he]
      exact .entries he
  | leaves hd ht =>
    obtain ⟨i, hi, hu⟩ := Decision.exists_unfixable_of_fixAndReport hd
    refine ⟨_, _, _, rfl, by rw [hd]; exact .left ht.ne_ok (forall₂_shownAs_iff.mpr rfl), ?_, ?_⟩
    · rw [Decision.issues_of_ne_fixSilently (by simp [hd])]
      exact .issues _
    · have hm : i ∈ (g.policy.issues file report).filter (!·.fixable) :=
        List.mem_filter.mpr ⟨hi, by simp [hu]⟩
      exact List.ne_nil_of_mem (List.mem_map_of_mem hm)
  | remains hd hv hn =>
    have hs := success_of_counted_ne_nil hn
    rw [g.counted_of_not_success file hs] at hn ⊢
    exact ⟨_, _, _, rfl, .again hs (forall₂_shownAs_iff.mpr rfl), .issues _, by simpa using hn⟩

end Gate
end QualityGate
