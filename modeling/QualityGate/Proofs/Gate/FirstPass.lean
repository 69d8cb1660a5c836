import QualityGate.Proofs.Gate.Delegation
import QualityGate.Proofs.Gate.Guard
import QualityGate.Proofs.Toolbox.Provenance

namespace QualityGate.Gate

open Log Recording
open Toolbox (Surveyed Checks Fixes repairers records_check records_fix)

variable {σ : Type} {host : Host (WorldM σ)} {settings : Settings} {gate : Gate (WorldM σ)}
  {gate' : Gate (Recording Turn (WorldM σ))} {file : String}

/-- The first check of a file, the commands for it and those of the whole run, and what the run
comes to. -/
structure FirstPass (settings : Settings) (gate : Gate (WorldM σ)) (file : String)
    (first : Except GateError CheckReport) (looks commands : List Turn)
    (result : Except GateError HookReport) : Prop where
  surveyed : Surveyed settings.tools file looks first
  begins : looks <+: commands
  error : ∀ e, first = .error e → result = .error e
  ok : ∀ report, first = .ok report → ∃ r, result = .ok r ∧ r.status ≠ .error ∧
    r.decision = (gate.evaluation file report).decision
  /-- Without an issue there is nothing to do after the check. -/
  clean : ∀ report, first = .ok report → gate.policy.issues file report = [] →
    commands = looks ∧ ∃ r, result = .ok r ∧ r.status = .success

theorem FirstPass.status_ne_error {first : Except GateError CheckReport}
    {looks commands : List Turn} {result : Except GateError HookReport}
    (h : FirstPass settings gate file first looks commands result) (r : HookReport)
    (hr : result = .ok r) : r.status ≠ .error := by
  cases first with
  | error e =>
    rw [h.error e rfl] at hr
    cases hr
  | ok report =>
    obtain ⟨r', hr', hn, -⟩ := h.ok report rfl
    rw [hr'] at hr
    exact Except.ok.inj hr ▸ hn

theorem exists_recorded (hg : ofSettings host settings = .ok gate)
    (hg' : ofSettings host.recorded settings = .ok gate') :
    ∃ checker fixer, gate' = gate.restaff checker fixer ∧
      (∀ file, Records (Checks settings.tools file Tool.all .clean) (checker.check file)
        (gate.checker.check file)) ∧
      ∀ file report, Records (Fixes settings.tools file (repairers settings.tools report) true)
        (fixer.fix file report) (gate.fixer.fix file report) := by
  unfold ofSettings at hg hg'
  cases hp : Policy.ofSettings settings.policy with
  | error e =>
    rw [hp] at hg
    cases hg
  | ok p =>
    rw [hp] at hg hg'
    obtain rfl := Except.ok.inj hg
    obtain rfl := Except.ok.inj hg'
    exact ⟨_, _, rfl, fun file => records_check host settings.tools file,
      fun file report => records_fix host settings.tools file report⟩

theorem records_run_ofSettings (hg : ofSettings host settings = .ok gate)
    (hg' : ofSettings host.recorded settings = .ok gate') (e : Errand) :
    Records (fun _ _ => True) (gate'.run e) (gate.run e) := by
  obtain ⟨checker, fixer, rfl, hC, hF⟩ := exists_recorded hg hg'
  exact (records_run hC hF e).mono fun _ _ _ => trivial

theorem records_evaluate_ofSettings (hg : ofSettings host settings = .ok gate)
    (hg' : ofSettings host.recorded settings = .ok gate') (e : Errand) :
    Records (fun _ _ => True) (gate'.evaluate e) (gate.evaluate e) := by
  obtain ⟨checker, fixer, rfl, hC, hF⟩ := exists_recorded hg hg'
  exact (records_evaluate hC e).mono fun _ _ _ => trivial

theorem firstPass (hg : ofSettings host settings = .ok gate)
    (hg' : ofSettings host.recorded settings = .ok gate') (file : String) (w : World σ) :
    ∃ first looks,
      (gate'.assess file [] w).1 = (first.map (gate.evaluation file), looks) ∧
      (gate'.process file [] w).1.1 = (gate.process file w).1 ∧
      FirstPass settings gate file first looks (gate'.process file [] w).1.2
        (gate'.process file [] w).1.1 := by
  obtain ⟨checker, fixer, rfl, hC, hF⟩ := exists_recorded hg hg'
  obtain ⟨l, -, hp⟩ := (records_process hC hF file).run_eq w
  obtain ⟨looks, ⟨first, hl, ha⟩, he⟩ := (records_assess hC file).run_eq w
  have hs := hl.surveyed
  refine ⟨first, looks, by rw [he, ha], by rw [hp], ?_⟩
  rw [process, Recording.bind_eq, he, ha]
  cases first with
  | error e =>
    refine ⟨hs, List.prefix_rfl, ?_, ?_, ?_⟩
    · rintro _ ⟨rfl⟩
      rfl
    · rintro _ ⟨⟩
    · rintro _ ⟨⟩
  | ok report =>
    cases hsucc : report.success with
    | true =>
      have hd : (gate.evaluation file report).decision = none := by simp [evaluation, hsucc]
      simp only [Except.map, hd]
      refine ⟨hs, List.prefix_rfl, ?_, ?_, ?_⟩
      · rintro _ ⟨⟩
      · rintro _ ⟨rfl⟩
        refine ⟨_, rfl, ?_, hd.symm⟩
        rintro ⟨⟩
      · rintro _ ⟨rfl⟩ -
        exact ⟨rfl, _, rfl, rfl⟩
    | false =>
      have hd : (gate.evaluation file report).decision =
          some (.ofIssues (gate.policy.issues file report)) := by simp [evaluation, hsucc]
      -- carrying the decision out only adds to the commands of the check
      obtain ⟨l', ⟨fix, second, -, hr⟩, hx⟩ := (records_carryOut hC hF file report
        (.ofIssues (gate.policy.issues file report))).run_append looks (gate.assess file w).2
      simp only [Except.map, hd]
      rw [Recording.bind_eq, hx]
      refine ⟨hs, List.prefix_append looks l', ?_, ?_, ?_⟩
      · rintro _ ⟨⟩
      · rintro _ ⟨rfl⟩
        exact ⟨_, rfl, hr.status_ne_error, hr.decision_eq.trans hd.symm⟩
      · rintro _ ⟨rfl⟩ hn
        rw [hs.issues_eq_nil_iff, hsucc] at hn
        cases hn

end QualityGate.Gate
