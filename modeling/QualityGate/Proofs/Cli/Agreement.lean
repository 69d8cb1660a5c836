import QualityGate.Proofs.Cli.Checking
import QualityGate.Proofs.LogFree

namespace QualityGate

open Log Recording

/-- What a narration tells the agent, if it wants to be told. -/
def fedBack (feedback : Bool) (ns : List Narration) : String :=
  if feedback then String.join (ns.map fun n => n.line ++ "\n") else ""

theorem Output.stderr_append (a b : Output) : (a ++ b).stderr = a.stderr ++ b.stderr := rfl

theorem fedBack_nil (feedback : Bool) : fedBack feedback [] = "" := by
  cases feedback <;> rfl

theorem fedBack_cons (feedback : Bool) (n : Narration) (ns : List Narration) :
    fedBack feedback (n :: ns) = (Output.ofNarration feedback n).stderr ++ fedBack feedback ns := by
  cases feedback <;> simp [fedBack, Output.ofNarration]

theorem Output.stderr_ofReport (feedback : Bool) (r : HookReport) :
    (Output.ofReport feedback r).stderr =
      fedBack feedback r.narration ++ r.blockingText.getD "" := by
  rw [Output.ofReport, HookReport.blockingText]
  induction r.narration with
  | nil =>
    rw [fedBack_nil, String.empty_append]
    cases r.blocking <;> rfl
  | cons n ns ih => rw [List.foldr_cons, stderr_append, ih, fedBack_cons, String.append_assoc]

def CheckSummary.output (json colours : Bool) (s : CheckSummary) : Output :=
  .line (if json then s.json.pretty else s.human colours)

namespace Cli

/-- What a request came to: the commands that were carried out for it, how it ended and what it
said. -/
structure Performance where
  commands : List Turn
  status : ExitStatus
  output : Output

def Request.Performs (r : Request) (host : Host (WorldM Workplace)) (w : Workplace)
    (call : HookCall) (x : Performance) : Prop :=
  ∃ w₂, r.runWith (.atWorkplace w host.lift) w call =
      some ⟨x.status.code, x.output, w₂.state, w₂.journal⟩ ∧
    (r.execute ((Facilities.atWorkplace (m := WorldM Workplace) w host.lift).observed host) call
      (wantsColours w.environment)).run [] (.start w) = ((.ok (x.status, x.output), x.commands), w₂)

/-- A check by hand tells what the run of the gate comes to. -/
structure Reports (file : String) (said : Output) (print : CheckSummary → Output)
    (result : Except GateError HookReport) (check : Performance) : Prop where
  ok : ∀ r, result = .ok r → check.status = r.status ∧
    check.output = said ++ print (CheckCall.ofReport file r)
  error : ∀ e, result = .error e → check.status.code = 1

/-- A check without repairs tells what the first check of the file comes to, and what a check with
repairs is going to do about that. -/
structure Foretells (settings : Settings) (gate : Gate (WorldM Workplace)) (file : String)
    (said : Output) (print : CheckSummary → Output) (first : Except GateError CheckReport)
    (result : Except GateError HookReport) (look check : Performance) : Prop where
  /-- Only the commands of one check are carried out. -/
  surveyed : Toolbox.Surveyed settings.tools file look.commands first
  begins : look.commands <+: check.commands
  error : ∀ e, first = .error e → result = .error e ∧ look.status.code = 1
  ok : ∀ report, first = .ok report → ∃ r s, result = .ok r ∧ look.output = said ++ print s ∧
    s.action = (CheckCall.ofReport file r).action ∧
    s.issues = gate.policy.issues file report ∧ s.blocking = none ∧
    s.exitCode = Int32.ofNat look.status.code ∧
    look.status.code = if gate.policy.issues file report = [] then 0 else 2
  clean : look.status.code = 0 → check.status.code = 0 ∧ check.commands = look.commands

/-- The agent's hook does what a check by hand does, and ends as it does unless the gate fails. -/
structure Agrees (feedback : Bool) (file : String) (said : Output)
    (result : Except GateError HookReport) (hook check : Performance) : Prop where
  commands : hook.commands = check.commands
  ok : ∀ r, result = .ok r → hook.status = check.status ∧
    ∃ id name, let narration := .started id :: .processing name :: r.narration
      hook.output.stdout = spoken narration ∧
      hook.output.stderr = said.stderr ++ fedBack feedback narration ++
        (CheckCall.ofReport file r).blocking.getD ""
  error : ∀ e, result = .error e → hook.status.code = 0

namespace HookCall

variable {σ : Type} {call : HookCall} {settings : Settings} {host : Host (WorldM σ)}
  {gate' : Gate (Recording Turn (WorldM σ))} {p : Payload} {operation file : String}
  {l l' : List Turn} {w : World σ} {result : Except GateError HookReport}

/-- How the command ends with what the gate comes to, and what it says of that. -/
def answer (call : HookCall) (feedback : Bool) :
    Except GateError HookReport → ExitStatus × Output
  | .ok r => (r.status, .ofReport feedback r)
  | .error fault => (.success, .ofNarration feedback (.hookError fault.message call.correlationId))

theorem gateFile_recorded (hg : Gate.ofSettings host.recorded settings = .ok gate')
    (hr : (gate'.run ⟨file, call.correlationId, some operation⟩ l w).1 = (result, l')) :
    (call.gateFile (m := Recording Turn (WorldM σ)) host.recorded.lift settings
      ⟨file, call.correlationId, some operation⟩ l w).1 =
        (call.answer settings.hook.feedbackJson result, l') := by
  rw [gateFile_lift call hg, Recording.bind_eq, hr]
  cases result <;> rfl

theorem respond_recorded (hg : Gate.ofSettings host.recorded settings = .ok gate')
    (hp : Payload.parse call.delivery.text = .ok p) (ha : p.Admitted settings.hook operation file)
    (hr : ∀ w', w'.state = w.state →
      (gate'.run ⟨file, call.correlationId, some operation⟩ [] w').1 = (result, l)) :
    ∃ name w₂, call.respond (m := Recording Turn (WorldM σ)) host.recorded.lift settings [] w =
      ((((call.answer settings.hook.feedbackJson result).1,
        .ofNarration settings.hook.feedbackJson (.started call.correlationId) ++
          (.ofNarration settings.hook.feedbackJson (.processing name) ++
            (call.answer settings.hook.feedbackJson result).2)), l), w₂) := by
  obtain ⟨w₁, hw, hs⟩ := receive_eq call.delivery w
  obtain ⟨l₀, ⟨rfl, -⟩, hw'⟩ := (records_receive (m := WorldM σ) call.delivery).run_eq w
  rw [hw] at hw'
  rw [respond, Recording.bind_eq, hw']
  simp only [hp, Recording.bind_eq]
  generalize hx : (event .debug .payload "Payload received" ["tool_name", "file_path"] :
    Recording Turn (WorldM σ) Unit) [] w₁ = x
  have hx₁ : x.1.2 = [] := by rw [← hx]; rfl
  have hx₂ : x.2.state = w.state := by rw [← hx, ← hs]; rfl
  have hv : p.screen settings.hook = .accept operation file := (p.screen_eq_accept_iff ..).mpr ha
  simp only [attend, hv, Recording.bind_eq, hx₁]
  obtain ⟨y, hy⟩ : ∃ y, call.gateFile (m := Recording Turn (WorldM σ)) host.recorded.lift settings
      ⟨file, call.correlationId, some operation⟩ [] x.2 = y := ⟨_, rfl⟩
  have hy₁ := gateFile_recorded hg (hr x.2 hx₂)
  rw [hy] at hy₁ ⊢
  rw [hy₁]
  exact ⟨_, _, rfl⟩

theorem stdout_answer (feedback : Bool) (r : HookReport) :
    (call.answer feedback (.ok r)).2.stdout = spoken r.narration :=
  Output.stdout_ofReport feedback r

theorem stderr_answer (feedback : Bool) (r : HookReport) :
    (call.answer feedback (.ok r)).2.stderr =
      fedBack feedback r.narration ++ r.blockingText.getD "" :=
  Output.stderr_ofReport feedback r

end HookCall

namespace CheckCall

/-- What the command comes to with a summary, or with a fault of the gate, after the given words. -/
def performance (call : CheckCall) (json colours : Bool) (said : Output) (commands : List Turn)
    (r : Except GateError CheckSummary) : Performance :=
  let ending := conclude json colours (r.mapError call.failure)
  ⟨commands, ending.1, said ++ ending.2⟩

theorem performance_ok (call : CheckCall) (json colours : Bool) (said : Output)
    (commands : List Turn) {s : CheckSummary} {status : ExitStatus}
    (h : s.exitCode = Int32.ofNat status.code) (hn : status ≠ .error) :
    call.performance json colours said commands (.ok s) =
      ⟨commands, status, said ++ s.output json colours⟩ := by
  rw [performance, Except.mapError, conclude, h]
  cases status with
  | success => rfl
  | error => exact absurd rfl hn
  | qualityIssues => rfl

variable {σ : Type} {gate : Gate (WorldM σ)} {gate' : Gate (Recording Turn (WorldM σ))}

theorem summary_run {file id : String} {l l' : List Turn} {w : World σ}
    {result : Except GateError HookReport}
    (h : (gate'.run ⟨file, id, some "check"⟩ l w).1 = (result, l')) :
    ((CheckCall.mk file false id).summary gate' l w).1 = (result.map (ofReport file), l') := by
  rw [summary, if_neg Bool.false_ne_true, Recording.bind_eq, h]
  rfl

theorem summary_evaluate {file id : String} {l l' : List Turn} {w : World σ}
    {result : Except GateError Evaluation}
    (h : (gate'.evaluate ⟨file, id, some "check"⟩ l w).1 = (result, l')) :
    ((CheckCall.mk file true id).summary gate' l w).1 = (result.map (ofEvaluation file), l') := by
  rw [summary, if_pos rfl, Recording.bind_eq, h]
  rfl

theorem records_summary (call : CheckCall)
    (hr : ∀ e, Records (fun _ _ => True) (gate'.run e) (gate.run e))
    (hx : ∀ e, Records (fun _ _ => True) (gate'.evaluate e) (gate.evaluate e)) :
    Records (fun _ _ => True) (call.summary gate') (call.summary gate) :=
  .ite (fun _ => (hx _).bind fun _ _ _ => .pure trivial)
    (fun _ => (hr _).bind fun _ _ _ => .pure trivial)

end CheckCall

section Performs

variable {w : Workplace} {host : Host (WorldM Workplace)} {settings : Settings}
  {config : Option String} {said : Output} {w₁ : World Workplace} {file : String}
  {gate : Gate (WorldM Workplace)} {gate' : Gate (Recording Turn (WorldM Workplace))}
  {l : List Turn}

theorem Request.performs_of_execute {r : Request} {call : HookCall} {w₂ : World Workplace}
    {x : Performance}
    (h : (r.execute (.atWorkplace (m := Stalling (WorldM Workplace)) w host.lift) call
      (wantsColours w.environment)).run.run (.start w) = (some (.ok (x.status, x.output)), w₂))
    (ho : (r.execute ((Facilities.atWorkplace (m := WorldM Workplace) w host.lift).observed host)
      call (wantsColours w.environment)).run [] (.start w) =
        ((.ok (x.status, x.output), x.commands), w₂)) : r.Performs host w call x :=
  ⟨w₂, runWith_of_execute h, ho⟩

theorem check_performs (hs : Settings.load w.tree w.cwd w.environment config = .ok settings)
    (hl : (Facilities.announce w settings.logging).run (.start w) = (.ok said, w₁))
    (hg : Gate.ofSettings host settings = .ok gate)
    (hg' : Gate.ofSettings host.recorded settings = .ok gate') (noFix json : Bool)
    (call : HookCall) {r : Except GateError CheckSummary}
    (hr : ((CheckCall.mk file noFix call.correlationId).summary gate' [] w₁).1 = (r, l)) :
    Request.Performs ⟨.check file noFix, json, config⟩ host w call
      ((CheckCall.mk file noFix call.correlationId).performance json
        (wantsColours w.environment) said l r) := by
  let c : CheckCall := ⟨file, noFix, call.correlationId⟩
  obtain ⟨w₂, ho⟩ : ∃ w₂, c.summary gate' [] w₁ = ((r, l), w₂) := ⟨_, Prod.ext hr rfl⟩
  obtain ⟨hx, -⟩ := (c.records_summary (Gate.records_run_ofSettings hg hg')
    (Gate.records_evaluate_ofSettings hg hg')).of_run ho
  exact Request.performs_of_execute
    (c.execute_started json _ (.atWorkplace w host.lift) rfl hs
      (Facilities.run_startLogger host.lift hl) hg hx)
    (c.execute_observed json _ (.atWorkplace w host.lift) hs hl hg' ho)

theorem hook_performs (hs : Settings.load w.tree w.cwd w.environment config = .ok settings)
    (hl : (Facilities.announce w settings.logging).run (.start w) = (.ok said, w₁))
    (hg : Gate.ofSettings host settings = .ok gate)
    (hg' : Gate.ofSettings host.recorded settings = .ok gate') (timeoutMs : Option UInt64)
    (json : Bool) {call : HookCall} {p : Payload} {operation : String}
    (hp : Payload.parse call.delivery.text = .ok p) (ha : p.Admitted settings.hook operation file)
    {result : Except GateError HookReport}
    (hr : ∀ w', w'.state = w₁.state →
      (gate'.run ⟨file, call.correlationId, some operation⟩ [] w').1 = (result, l)) :
    ∃ name, Request.Performs ⟨.hook timeoutMs, json, config⟩ host w call
      ⟨l, (call.answer settings.hook.feedbackJson result).1,
        said ++ (.ofNarration settings.hook.feedbackJson (.started call.correlationId) ++
          (.ofNarration settings.hook.feedbackJson (.processing name) ++
            (call.answer settings.hook.feedbackJson result).2))⟩ := by
  have hf : (HookCall.withTimeout settings timeoutMs).hook.feedbackJson =
      settings.hook.feedbackJson := by cases timeoutMs <;> rfl
  have ht : Gate.ofSettings host (HookCall.withTimeout settings timeoutMs) = .ok gate := by
    cases timeoutMs <;> exact hg
  have ht' : Gate.ofSettings host.recorded (HookCall.withTimeout settings timeoutMs) =
      .ok gate' := by
    cases timeoutMs <;> exact hg'
  obtain ⟨name, w₂, ho⟩ :=
    HookCall.respond_recorded ht' hp (HookCall.admitted_withTimeout.mpr ha) hr
  rw [hf] at ho
  obtain ⟨hx, -⟩ :=
    (HookCall.records_respond ht ht' (Gate.records_run_ofSettings hg hg')).of_run ho
  exact ⟨name, Request.performs_of_execute
    (call.execute_started (.atWorkplace w host.lift) timeoutMs hs
      (Facilities.run_startLogger host.lift hl) (HookCall.run_respond_lift hx))
    (call.execute_observed (.atWorkplace w host.lift) host timeoutMs hs hl ho)⟩

end Performs

section Agreement

variable {settings : Settings} {gate : Gate (WorldM Workplace)} {file : String} {said : Output}
  {json json' colours : Bool} {first : Except GateError CheckReport}
  {result : Except GateError HookReport} {looks commands : List Turn}

theorem issues_eq_counted {report : CheckReport}
    (h : Toolbox.Surveyed settings.tools file looks (.ok report)) :
    gate.counted file report = gate.policy.issues file report := by
  cases hs : report.success with
  | true => rw [Gate.counted, if_pos hs, (h.issues_eq_nil_iff gate.policy file).mpr hs]
  | false => exact gate.counted_of_not_success file hs

theorem exitCode_ofEvaluation {report : CheckReport}
    (h : Toolbox.Surveyed settings.tools file looks (.ok report)) :
    (CheckCall.ofEvaluation file (gate.evaluation file report)).exitCode = Int32.ofNat
      (if gate.policy.issues file report = [] then ExitStatus.success
        else .qualityIssues).code := by
  have hi : gate.counted file report = gate.policy.issues file report := issues_eq_counted h
  simp [CheckCall.ofEvaluation, Gate.evaluation, Gate.outcomeIn, CheckOutcome.isClean,
    CheckOutcome.ofIssues, hi]

theorem foretells_of_firstPass
    (h : Gate.FirstPass settings gate file first looks commands result) (look check : CheckCall) :
    Foretells settings gate file said (CheckSummary.output json colours) first result
      (look.performance json colours said looks
        ((first.map (gate.evaluation file)).map (CheckCall.ofEvaluation file)))
      (check.performance json' colours said commands
        (result.map (CheckCall.ofReport file))) := by
  have hlook : ∀ report, first = .ok report →
      look.performance json colours said looks
          ((first.map (gate.evaluation file)).map (CheckCall.ofEvaluation file)) =
        ⟨looks, if gate.policy.issues file report = [] then .success else .qualityIssues,
          said ++ (CheckCall.ofEvaluation file (gate.evaluation file report)).output json
            colours⟩ := by
    rintro report rfl
    refine look.performance_ok json colours said looks (exitCode_ofEvaluation h.surveyed) ?_
    split <;> exact nofun
  refine ⟨h.surveyed, h.begins, ?_, ?_, ?_⟩
  · rintro e rfl
    exact ⟨h.error e rfl, rfl⟩
  · intro report hr
    obtain ⟨r, hres, -, hd⟩ := h.ok report hr
    have hs := h.surveyed
    rw [hr] at hs
    rw [hlook report hr]
    refine ⟨r, _, hres, rfl, ?_, issues_eq_counted hs, rfl, exitCode_ofEvaluation hs, ?_⟩
    · simp only [CheckCall.ofEvaluation, CheckCall.ofReport, hd]
    · split <;> rfl
  · intro hc
    cases first with
    | error e => cases hc
    | ok report =>
      rw [hlook report rfl] at hc
      have hn : gate.policy.issues file report = [] := by
        by_contra hn
        rw [if_neg hn] at hc
        cases hc
      obtain ⟨rfl, r, rfl, hs⟩ := h.clean report rfl hn
      refine ⟨?_, rfl⟩
      have he : (CheckCall.ofReport file r).exitCode = Int32.ofNat ExitStatus.success.code := by
        rw [CheckCall.ofReport, hs]
      exact congrArg (fun x => x.status.code)
        (check.performance_ok json' colours said commands he nofun)

theorem reports_of_result (hne : ∀ r, result = .ok r → r.status ≠ .error) (check : CheckCall) :
    Reports file said (CheckSummary.output json colours) result
      (check.performance json colours said commands
        (result.map (CheckCall.ofReport file))) := by
  refine ⟨?_, ?_⟩
  · rintro r rfl
    have he : (CheckCall.ofReport file r).exitCode = Int32.ofNat r.status.code := rfl
    rw [Except.map, check.performance_ok json colours said commands he (hne r rfl)]
    exact ⟨rfl, rfl⟩
  · rintro e rfl
    rfl

theorem agrees_of_result {call : HookCall} {feedback : Bool} {print : CheckSummary → Output}
    {check : Performance} (hs : said.stdout = "") (hc : check.commands = commands)
    (hr : Reports file said print result check) (name : String) :
    Agrees feedback file said result
      ⟨commands, (call.answer feedback result).1,
        said ++ (.ofNarration feedback (.started call.correlationId) ++
          (.ofNarration feedback (.processing name) ++ (call.answer feedback result).2))⟩
      check := by
  refine ⟨hc.symm, ?_, ?_⟩
  · rintro r rfl
    refine ⟨(hr.ok r rfl).1.symm, call.correlationId, name, ?_, ?_⟩
    · simp only [Output.stdout_append, HookCall.stdout_answer, hs, spoken_cons]
      rfl
    · simp only [Output.stderr_append, HookCall.stderr_answer, fedBack_cons, String.append_assoc]
      rfl
  · rintro e rfl
    rfl

end Agreement

/-- With settings that load and a logger that can start, the commands agree about every file. -/
theorem commands_agree (w : Workplace)
    (f : QualityGate.Command → Workplace → Except SpawnError Completion × Workplace)
    (config : Option String) (file : String) {settings : Settings}
    (hs : Settings.load w.tree w.cwd w.environment config = .ok settings)
    (hl : ¬ w.Unloggable settings.logging) :
    ∃ gate said first result, Gate.ofSettings (Host.ofSteps f) settings = .ok gate ∧
      said.stdout = "" ∧
      (∀ e w', e.file = file → w'.state = (Workplace.startLogger settings.logging w).2 →
        (gate.run e w').1 = result) ∧
      ∀ (json json' : Bool) (call call' : HookCall), ∃ check look,
        Request.Performs ⟨.check file false, json, config⟩ (Host.ofSteps f) w call check ∧
        Request.Performs ⟨.check file true, json', config⟩ (Host.ofSteps f) w call' look ∧
        Reports file said (CheckSummary.output json (wantsColours w.environment)) result check ∧
        Foretells settings gate file said (CheckSummary.output json' (wantsColours w.environment))
          first result look check ∧
        ∀ (timeoutMs : Option UInt64) (json'' : Bool) (call'' : HookCall) (p : Payload)
          (operation : String), Payload.parse call''.delivery.text = .ok p →
          p.Admitted settings.hook operation file →
          ∃ hook, Request.Performs ⟨.hook timeoutMs, json'', config⟩ (Host.ofSteps f) w call''
            hook ∧
            Agrees settings.hook.feedbackJson file said result hook check := by
  have hv := Settings.validate_of_load hs
  obtain ⟨hu, -⟩ | ⟨-, answer, w', ha⟩ :=
    w.startLogger_cases (Settings.isSome_levelOf?_of_validate hv)
  · exact absurd hu hl
  obtain ⟨said, w₁, hstart, hsaid, hw₁⟩ := Facilities.announce_of_ok (congrArg Prod.fst ha)
  obtain ⟨policy, hp⟩ := Settings.exists_policy hv
  obtain ⟨gate, hg⟩ : ∃ gate, Gate.ofSettings (Host.ofSteps f) settings = .ok gate :=
    ⟨_, Gate.ofSettings_eq _ hp⟩
  obtain ⟨gate', hg'⟩ : ∃ gate', Gate.ofSettings (Host.ofSteps f).recorded settings = .ok gate' :=
    ⟨_, Gate.ofSettings_eq _ hp⟩
  obtain ⟨first, looks, hassess, hprocess, hfirst⟩ := Gate.firstPass hg hg' file w₁
  obtain ⟨⟨result, commands⟩, hx⟩ : ∃ x, (gate'.process file [] w₁).1 = x := ⟨_, rfl⟩
  rw [hx] at hprocess hfirst
  have hrun : ∀ (e : Errand) (w' : World Workplace), e.file = file → w'.state = w₁.state →
      (gate'.run e [] w').1 = (result, commands) := fun e w' he hw => by
    subst he
    rw [Gate.run_eq_process hg' e [] hw, hx]
  have hevaluate : ∀ e : Errand, e.file = file →
      (gate'.evaluate e [] w₁).1 = (first.map (gate.evaluation file), looks) := fun e he => by
    subst he
    rw [Gate.evaluate_eq_assess hg' e [] rfl, hassess]
  have hcheck : ∀ json call, Request.Performs ⟨.check file false, json, config⟩ (Host.ofSteps f) w
      call (CheckCall.performance ⟨file, false, call.correlationId⟩ json _ said commands
        (result.map (CheckCall.ofReport file))) := fun json call =>
    check_performs hs hstart hg hg' false json call (CheckCall.summary_run (hrun _ w₁ rfl rfl))
  have hlook : ∀ json call, Request.Performs ⟨.check file true, json, config⟩ (Host.ofSteps f) w
      call (CheckCall.performance ⟨file, true, call.correlationId⟩ json _ said looks
        ((first.map (gate.evaluation file)).map (CheckCall.ofEvaluation file))) := fun json call =>
    check_performs hs hstart hg hg' true json call (CheckCall.summary_evaluate (hevaluate _ rfl))
  refine ⟨gate, said, first, result, hg, hsaid, fun e w' he hw => ?_,
    fun json json' call call' => ⟨_, _, hcheck json call, hlook json' call',
      reports_of_result hfirst.status_ne_error _, foretells_of_firstPass hfirst _ _, ?_⟩⟩
  · obtain ⟨l, -, hl⟩ := (Gate.records_run_ofSettings hg hg' e).run_eq w'
    have h := hrun e w' he (hw.trans hw₁.symm)
    rw [hl] at h
    exact congrArg Prod.fst h
  · intro timeoutMs json'' call'' p operation hparse hadmitted
    obtain ⟨name, hh⟩ := hook_performs hs hstart hg hg' timeoutMs json'' hparse hadmitted
      fun w' hw => hrun _ w' rfl hw
    exact ⟨_, hh, agrees_of_result hsaid rfl
      (reports_of_result hfirst.status_ne_error _) name⟩

theorem commands_agree_idleHost :
    Settings.load (workplaceOf []).tree ["work"] [] none = .ok default ∧
      ¬ (workplaceOf []).Unloggable LoggingSettings.default ∧
      Payload.parse editCall.delivery.text = .ok editPayload ∧
      editPayload.Admitted HookSettings.default "Edit" "form.ts" ∧
      ∃ gate said first result hook check look,
        Reports "form.ts" said (CheckSummary.output true false) result check ∧
        Foretells default gate "form.ts" said (CheckSummary.output true false) first result look
          check ∧
        Agrees HookSettings.default.feedbackJson "form.ts" said result hook check ∧
        hook.status.code = 2 := by
  have hu := not_unloggable_workplaceOf_nil
  obtain ⟨gate, said, first, result, hg, -, hr, h⟩ := commands_agree (workplaceOf [])
    (fun _ w => (.ok ⟨some 2, [], []⟩, w)) none "form.ts" load_workplaceOf_nil hu
  obtain ⟨check, look, -, -, hcheck, hlook, hhook⟩ := h true true editCall editCall
  obtain ⟨hook, -, ha⟩ := hhook none true editCall _ _ parse_editCall admitted_editPayload
  have hc : HookCall.codeOf result = 2 := by
    rw [← hr ⟨"form.ts", "id", some "Edit"⟩ (.start _) rfl rfl]
    exact codeOf_run_idleHost hg _
  refine ⟨load_workplaceOf_nil, hu, parse_editCall, admitted_editPayload, gate, said, first,
    result, hook, check, look, hcheck, hlook, ha, ?_⟩
  cases result with
  | error e => cases hc
  | ok r =>
    rw [(ha.ok r rfl).1, (hcheck.ok r rfl).1]
    exact hc

end Cli
end QualityGate
