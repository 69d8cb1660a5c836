import QualityGate.Proofs.LogFree
import QualityGate.Proofs.Toolbox.Provenance

namespace QualityGate

open Log Recording

variable {σ α β : Type}

/-- What commands do to a state. One that cannot be started does nothing to it. -/
abbrev Behaviour (σ : Type) := Command → σ → Except SpawnError (Completion × σ)

namespace Behaviour

def step (f : Behaviour σ) (c : Command) (s : σ) : Except SpawnError Completion × σ :=
  match f c s with
  | .error cause => (.error cause, s)
  | .ok (c, s') => (.ok c, s')

theorem step_eq_error_iff (f : Behaviour σ) {c : Command} {s s' : σ} {cause : SpawnError} :
    f.step c s = (.error cause, s') ↔ f c s = .error cause ∧ s' = s := by
  unfold step
  cases f c s with
  | error cause' => simp [eq_comm]
  | ok x => simp

theorem step_eq_ok_iff (f : Behaviour σ) {c : Command} {s s' : σ} {x : Completion} :
    f.step c s = (.ok x, s') ↔ f c s = .ok (x, s') := by
  unfold step
  cases f c s with
  | error cause => simp
  | ok y => simp [Prod.ext_iff]

def host (f : Behaviour σ) : Host (WorldM σ) :=
  .ofSteps f.step

/-- The commands of a record take one state to the other, one after another. -/
inductive Replays (f : Behaviour σ) : σ → List Turn → σ → Prop
  | nil (s : σ) : Replays f s [] s
  | cons {c : Command} {answer : Except SpawnError Completion} {s s' s'' : σ} {l : List Turn}
      (hc : f.step c s = (answer, s')) (h : Replays f s' l s'') :
      Replays f s (.performed c answer :: l) s''

variable {f : Behaviour σ}

theorem Replays.append {s s' s'' : σ} {l l' : List Turn} (h : f.Replays s l s')
    (h' : f.Replays s' l' s'') : f.Replays s (l ++ l') s'' := by
  induction h with
  | nil _ => exact h'
  | cons hc _ ih => exact .cons hc (ih h')

/-- What a computation records is what it does to the state. -/
def Tracks (f : Behaviour σ) (x : Recording Turn (WorldM σ) α) : Prop :=
  ∀ (l : List Turn) (w : World σ), ∃ l', (x l w).1.2 = l ++ l' ∧
    f.Replays w.state l' (x l w).2.state

theorem Tracks.pure (a : α) : f.Tracks (Pure.pure a) :=
  fun _ _ => ⟨[], (List.append_nil _).symm, .nil _⟩

theorem Tracks.bind {x : Recording Turn (WorldM σ) α} {k : α → Recording Turn (WorldM σ) β}
    (hx : f.Tracks x) (hk : ∀ a, f.Tracks (k a)) : f.Tracks (x >>= k) := by
  intro l w
  obtain ⟨l₁, hl₁, hs₁⟩ := hx l w
  obtain ⟨l₂, hl₂, hs₂⟩ := hk (x l w).1.1 (x l w).1.2 (x l w).2
  refine ⟨l₁ ++ l₂, ?_, hs₁.append hs₂⟩
  rw [Recording.bind_eq, hl₂, hl₁, List.append_assoc]

theorem Tracks.event (level : Level) (scope : Scope) (message : String) (others : List String) :
    f.Tracks (event level scope message others) :=
  fun _ _ => ⟨[], (List.append_nil _).symm, .nil _⟩

theorem Tracks.perform (f : Behaviour σ) (c : Command) : f.Tracks (f.host.recorded.perform c) :=
  fun _ _ => ⟨[.performed c _], rfl, .cons rfl (.nil _)⟩

end Behaviour

namespace Toolbox

variable {f : Behaviour σ} {settings : ToolsSettings} {file : String}

theorem tracks_perform (f : Behaviour σ) (tool : Tool) (c : Command) :
    f.Tracks (perform f.host.recorded tool c) := by
  refine .bind (.event _ _ _ _) fun _ => .bind (.perform f c) fun answer => ?_
  cases answer with
  | error cause => exact .bind (.event _ _ _ _) fun _ => .pure _
  | ok c => exact .pure _

theorem tracks_fixWith (f : Behaviour σ) (settings : ToolsSettings) (file : String)
    (tools : List Tool) (success : Bool) :
    f.Tracks (fixWith f.host.recorded settings file tools success) := by
  induction tools generalizing success with
  | nil => exact .bind (.event _ _ _ _) fun _ => .pure _
  | cons tool tools ih =>
    refine .bind (tracks_perform f tool _) fun answer => ?_
    cases answer with
    | error e => exact .pure _
    | ok run =>
      dsimp only
      split
      · exact .bind (.event _ _ _ _) fun _ => ih _
      · exact ih _

theorem tracks_fix (f : Behaviour σ) (settings : ToolsSettings) (file : String)
    (report : CheckReport) : f.Tracks ((fixer f.host.recorded settings).fix file report) :=
  tracks_fixWith f settings file (repairers settings report) true

/-- The tools that told an error, may be used, and have arguments for a repair. -/
def due (settings : ToolsSettings) (report : CheckReport) : List Tool :=
  [.prettier, .eslint, .typescript].filter fun t =>
    report.errors t ≠ [] ∧ (settings.get t).enabled = true ∧ (settings.get t).fixArgs ≠ []

theorem repairers_eq_due (settings : ToolsSettings) (report : CheckReport) :
    repairers settings report = due settings report := by
  rw [repairers, CheckReport.failingTools, List.filter_filter, due]
  refine List.filter_congr fun t _ => ?_
  rw [Bool.eq_iff_iff]
  simp [ToolSettings.canFix, and_comm]

/-- The command by which a tool repairs a file: its program, with its arguments for a repair and the
file after them. -/
def repair (settings : ToolsSettings) (file : String) (tool : Tool) : Command :=
  ⟨(settings.get tool).program, (settings.get tool).fixArgs ++ [file]⟩

def fixed (settings : ToolsSettings) (file : String) (x : Finish) : Turn :=
  .performed (repair settings file x.1) (.ok x.2)

/-- The fix commands of some tools come to their ends, each in the state that the one before it
left. -/
inductive Successive (f : Behaviour σ) (settings : ToolsSettings) (file : String) :
    σ → List Finish → σ → Prop
  | nil (s : σ) : Successive f settings file s [] s
  | cons {tool : Tool} {c : Completion} {s s' s'' : σ} {runs : List Finish}
      (hc : f (repair settings file tool) s = .ok (c, s'))
      (h : Successive f settings file s' runs s'') :
      Successive f settings file s ((tool, c) :: runs) s''

/-- A repair by some tools: the commands that it carries out, the state that it leaves, and what it
comes to. Either all of the tools have their turns, or the first whose command cannot be started is
the last, and the state stays as the tools before it left it. -/
inductive FixPass (f : Behaviour σ) (settings : ToolsSettings) (file : String) (tools : List Tool)
    (s : σ) : List Turn → σ → Except GateError FixResult → Prop
  | completed {runs : List Finish} {s' : σ} (hr : runs.map Prod.fst = tools)
      (hs : Successive f settings file s runs s') :
      FixPass f settings file tools s (runs.map (fixed settings file)) s'
        (.ok ⟨decide (∀ x ∈ runs, x.2.exitCode = some 0)⟩)
  | stopped {runs : List Finish} {s' : σ} {tool : Tool} {after : List Tool} {cause : SpawnError}
      (hr : tools = runs.map Prod.fst ++ tool :: after)
      (hs : Successive f settings file s runs s')
      (hc : f (repair settings file tool) s' = .error cause) :
      FixPass f settings file tools s (runs.map (fixed settings file) ++
        [.performed (repair settings file tool) (.error cause)]) s'
        (.error (.toolSpawn tool cause))

theorem Fixes.runs {tools : List Tool} {success : Bool} {l : List Turn} {s s' : σ}
    {answer : Except GateError FixResult} (h : Fixes settings file tools success l answer)
    (hr : f.Replays s l s') :
    ∃ runs : List Finish, Successive f settings file s runs s' ∧
      ((runs.map Prod.fst = tools ∧ l = runs.map (fixed settings file) ∧
        answer = .ok ⟨success && decide (∀ x ∈ runs, x.2.exitCode = some 0)⟩) ∨
      ∃ tool after cause, tools = runs.map Prod.fst ++ tool :: after ∧
        l = runs.map (fixed settings file) ++
          [.performed (repair settings file tool) (.error cause)] ∧
        f (repair settings file tool) s' = .error cause ∧
        answer = .error (.toolSpawn tool cause)) := by
  induction h generalizing s with
  | done success =>
    cases hr
    exact ⟨[], .nil _, .inl ⟨rfl, rfl, by simp⟩⟩
  | unstartable cause =>
    cases hr with
    | cons hc hr =>
      cases hr
      obtain ⟨hc, rfl⟩ := f.step_eq_error_iff.mp hc
      exact ⟨[], .nil _, .inr ⟨_, _, cause, rfl, rfl, hc, rfl⟩⟩
  | @finished tool tools success l answer c _ ih =>
    cases hr with
    | cons hc hr =>
      have hc' := f.step_eq_ok_iff.mp hc
      obtain ⟨runs, hs, ⟨hm, rfl, rfl⟩ | ⟨tool', after, cause, hm, rfl, he, rfl⟩⟩ := ih hr
      · refine ⟨(tool, c) :: runs, .cons hc' hs, .inl ⟨by rw [List.map_cons, hm], rfl, ?_⟩⟩
        have hz : (ToolRun.ofCompletion c).success = decide (c.exitCode = some 0) := by
          rw [Bool.eq_iff_iff, success_ofCompletion, decide_eq_true_iff]
        have ha : decide (∀ x ∈ (tool, c) :: runs, x.2.exitCode = some 0) =
            (decide (c.exitCode = some 0) && decide (∀ x ∈ runs, x.2.exitCode = some 0)) := by
          rw [← Bool.decide_and]
          exact decide_eq_decide.mpr List.forall_mem_cons
        rw [hz, ha, Bool.and_assoc]
      · exact ⟨(tool, c) :: runs, .cons hc' hs,
          .inr ⟨tool', after, cause, by rw [hm]; rfl, rfl, he, rfl⟩⟩

theorem Fixes.fixPass {tools : List Tool} {l : List Turn} {s s' : σ}
    {answer : Except GateError FixResult} (h : Fixes settings file tools true l answer)
    (hr : f.Replays s l s') : FixPass f settings file tools s l s' answer := by
  obtain ⟨runs, hs, ⟨hm, rfl, rfl⟩ | ⟨tool, after, cause, hm, rfl, hc, rfl⟩⟩ := h.runs hr
  · rw [Bool.true_and]
    exact .completed hm hs
  · exact .stopped hm hs hc

theorem fix_congr (f : Behaviour σ) (settings : ToolsSettings) (file : String)
    (report : CheckReport) {w w' : World σ} (h : w.state = w'.state) :
    ((fixer f.host settings).fix file report w).1 =
        ((fixer f.host settings).fix file report w').1 ∧
      ((fixer f.host settings).fix file report w).2.state =
        ((fixer f.host settings).fix file report w').2.state := by
  have hi : IgnoresLog ((fixer f.host.recorded settings).fix file report) := by
    rw [Behaviour.host, ← Host.lift_logFree, fixer_lift]
    exact ((fixer (Host.logFree f.step) settings).fix file report).2
  obtain ⟨l, -, hw⟩ := (records_fix f.host settings file report).run_eq w
  obtain ⟨l', -, hw'⟩ := (records_fix f.host settings file report).run_eq w'
  obtain ⟨ha, hs⟩ := hi [] w w' h
  rw [hw, hw'] at ha hs
  exact ⟨(Prod.mk.inj ha).1, hs⟩

theorem remediate_of_error (g : Gate (WorldM σ)) (report : CheckReport) {e : GateError} {s : σ}
    {w : World σ} (h : ∀ w' : World σ, w'.state = w.state →
      (g.fixer.fix file report w').1 = .error e ∧ (g.fixer.fix file report w').2.state = s) :
    ∃ w', g.remediate file report w = (.failed, w') ∧
      g.recorded.remediate file report [] w =
        ((.failed, fixTurns file report (.error e)), w') ∧ w'.state = s := by
  have hr : ∃ w', g.recorded.remediate file report [] w =
      ((.failed, fixTurns file report (.error e)), w') ∧ w'.state = s := by
    rw [Gate.remediate, Recording.bind_eq]
    generalize hx : (event .info .remediation "Auto-fix started"
      ["fixer", "file_path", "candidates"] : Recording Turn (WorldM σ) Unit) [] w = x
    have hl : x.1.2 = [] := by rw [← hx]; rfl
    obtain ⟨he, hs⟩ := h x.2 (by rw [← hx]; rfl)
    have hf : g.recorded.fixer.fix file report [] x.2 =
        ((.error e, fixTurns file report (.error e)), (g.fixer.fix file report x.2).2) := by
      rw [← he]
      rfl
    rw [Recording.bind_eq, hl, hf]
    exact ⟨_, rfl, hs⟩
  obtain ⟨w', hw, hs⟩ := hr
  have hrecords : Records _ (g.recorded.remediate file report) _ :=
    Gate.records_remediate g.records_recorded_check g.records_recorded_fix file report
  exact ⟨w', (hrecords.of_run hw).1, hw, hs⟩

/-- A repair gives each tool that is due its turn, and succeeds if all of them do. A tool that
cannot be started ends it: then the remediation has failed, and the file is not checked again. -/
theorem fix_pass (f : Behaviour σ) (settings : ToolsSettings) (file : String)
    (report : CheckReport) (w : World σ) :
    ∃ answer l w', (fixer f.host settings).fix file report w = (answer, w') ∧
      (fixer f.host.recorded settings).fix file report [] w = ((answer, l), w') ∧
      FixPass f settings file (due settings report) w.state l w'.state answer ∧
      ∀ e, answer = .error e → ∀ checker formatter policy revalidate,
        ∃ w'', Gate.remediate ⟨checker, fixer f.host settings, formatter, policy, revalidate⟩ file
            report w = (.failed, w'') ∧
          (Gate.recorded ⟨checker, fixer f.host settings, formatter, policy, revalidate⟩).remediate
            file report [] w = ((.failed, fixTurns file report (.error e)), w'') ∧
          w''.state = w'.state := by
  obtain ⟨l, hfix, hl⟩ := (records_fix f.host settings file report).run_eq w
  obtain ⟨l', hl', hs⟩ := tracks_fix f settings file report [] w
  rw [hl, List.nil_append] at hl'
  subst hl'
  rw [hl] at hs
  rw [repairers_eq_due] at hfix
  refine ⟨_, l, _, rfl, hl, hfix.fixPass hs, fun e he checker formatter policy revalidate => ?_⟩
  refine remediate_of_error ⟨checker, fixer f.host settings, formatter, policy, revalidate⟩ report
    fun w' hw => ?_
  obtain ⟨ha, hs'⟩ := fix_congr f settings file report hw
  exact ⟨ha.trans he, hs'⟩

end Toolbox
end QualityGate
