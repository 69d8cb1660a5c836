import QualityGate.Cli.Program
import QualityGate.Proofs.Log.Start
import QualityGate.Proofs.Recording
import QualityGate.Proofs.Settings.Validation

namespace QualityGate

open Log

theorem Log.Stalling.run_liftM {σ α : Type} (x : WorldM σ α) (w : World σ) :
    (liftM x : Stalling (WorldM σ) α).run w = (some (x w).1, (x w).2) := rfl

namespace Facilities

variable {w : Workplace} {l : LoggingSettings}

theorem stdout_saying (complaints : List String) (r : Except StartError Logger) :
    (saying complaints r).stdout = "" := by
  unfold saying
  induction complaints with
  | nil => cases r <;> rfl
  | cons c complaints ih => exact ih

theorem run_step_startLogger {x : Except Breakdown (Except StartError Logger)}
    (h : (Workplace.startLogger l w).1 = x) :
    (ExceptT.mk (WorldM.step (Workplace.startLogger l)) : Fragile (WorldM Workplace) _).run
      (.start w) = (x, { World.start w with state := (Workplace.startLogger l w).2 }) :=
  congrArg (·, _) h

theorem announce_of_ok {answer : Except StartError Logger}
    (h : (Workplace.startLogger l w).1 = .ok answer) :
    ∃ said w₁, (announce w l).run (.start w) = (.ok said, w₁) ∧
      said.stdout = "" ∧ w₁.state = (Workplace.startLogger l w).2 := by
  simp only [announce, start, ExceptT.run_bind, WorldM.bind_eq, run_step_startLogger h]
  cases answer with
  | ok logger => exact ⟨_, _, rfl, stdout_saying _ _, rfl⟩
  | error e => exact ⟨_, _, rfl, stdout_saying _ _, rfl⟩

theorem announce_of_error {b : Breakdown} (h : (Workplace.startLogger l w).1 = .error b) :
    (announce w l).run (.start w) =
      (.error b, { World.start w with state := (Workplace.startLogger l w).2 }) := by
  simp only [announce, start, ExceptT.run_bind, WorldM.bind_eq, run_step_startLogger h]
  rfl

theorem run_startLogger (host : Host (Fragile (Stalling (WorldM Workplace))))
    {x : Except Breakdown Output} {w₀ w₁ : World Workplace} (h : (announce w l).run w₀ = (x, w₁)) :
    ((atWorkplace w host).startLogger l).run.run w₀ = (some x, w₁) := by
  change (some ((announce w l).run w₀).1, ((announce w l).run w₀).2) = _
  rw [h]

end Facilities

namespace Cli

namespace HookCall

theorem withTimeout_logging (settings : Settings) (timeoutMs : Option UInt64) :
    (withTimeout settings timeoutMs).logging = settings.logging := by
  cases timeoutMs <;> rfl

variable {σ : Type} (call : HookCall) (f : Facilities (Fragile (Stalling (WorldM σ))))
  {config : Option String} (timeoutMs : Option UInt64) {settings : Settings} {said : Output}
  {w w₁ w₂ : World σ} {x : Option (ExitStatus × Output)}

theorem execute_started (hs : f.settings config = .ok settings)
    (hl : (f.startLogger settings.logging).run.run w = (some (.ok said), w₁))
    (hr : (call.respond (m := Stalling (WorldM σ)) f.host (withTimeout settings timeoutMs)).run w₁ =
      (x, w₂)) :
    (call.execute f config timeoutMs).run.run w =
      (x.map fun a => .ok (a.1, said ++ a.2), w₂) := by
  -- the response is named before the steps around it are run, so that nothing opens it
  let z : Stalling (WorldM σ) (ExitStatus × Output) :=
    call.respond f.host (withTimeout settings timeoutMs)
  have hz : z.run w₁ = (x, w₂) := hr
  simp only [execute, hs, withTimeout_logging, ExceptT.run_bind, OptionT.run_bind]
  rw [Option.elimM, WorldM.bind_eq, hl]
  change (ExceptT.lift z >>= fun a => pure (a.1, said ++ a.2)).run.run w₁ = _
  rw [bind_pure_comp, ExceptT.run_map, ExceptT.run_lift, Functor.map_map, OptionT.run_map]
  change (Option.map _ (z.run w₁).1, (z.run w₁).2) = _
  rw [hz]
  rfl

theorem execute_broken {b : Breakdown} (hs : f.settings config = .ok settings)
    (hl : (f.startLogger settings.logging).run.run w = (some (.error b), w₁)) :
    (call.execute f config timeoutMs).run.run w = (some (.error b), w₁) := by
  simp only [execute, hs, withTimeout_logging, ExceptT.run_bind, OptionT.run_bind]
  rw [Option.elimM, WorldM.bind_eq, hl]
  rfl

end HookCall

theorem Request.execute_hook {m : Type → Type} [Monad m] [Journal m] {r : Request}
    {timeoutMs : Option UInt64} (ht : r.task = .hook timeoutMs) (f : Facilities (Fragile m))
    (call : HookCall) (colours : Bool) :
    r.execute f call colours = call.execute f r.config timeoutMs := by
  rw [execute, ht]

section Run

variable {r : Request} {f : Facilities (Fragile (Stalling (WorldM Workplace)))} {w : Workplace}
  {call : HookCall} {w₂ : World Workplace} {x : Option (Except Breakdown (ExitStatus × Output))}

/-- The exit code of a request that has been carried out, and what it has written. -/
def finished (call : HookCall) : Except Breakdown (ExitStatus × Output) → Nat × Output
  | .ok (status, output) => (status.code, output)
  | .error b => (breakdownCode, ⟨"", b.report call.thread⟩)

theorem finish_of_execute {colours : Bool} {w₁ : World Workplace}
    (he : (r.execute f call colours).run.run w₁ = (x, w₂)) :
    (r.finish f call colours).run w₁ = (x.map (finished call), w₂) := by
  simp only [Request.finish, OptionT.run_bind, Option.elimM]
  rw [WorldM.bind_eq, he]
  match x with
  | none => rfl
  | some (.ok _) => rfl
  | some (.error _) => rfl

theorem runWith_of_finish {y : Option (Nat × Output)}
    (hf : (r.finish f call (wantsColours w.environment)).run (.start w) = (y, w₂)) :
    r.runWith f w call = y.map fun a => ⟨a.1, a.2, w₂.state, w₂.journal⟩ := by
  rw [Request.runWith, StateT.run, hf]

theorem runWith_of_execute {status : ExitStatus} {output : Output}
    (he : (r.execute f call (wantsColours w.environment)).run.run (.start w) =
      (some (.ok (status, output)), w₂)) :
    r.runWith f w call = some ⟨status.code, output, w₂.state, w₂.journal⟩ :=
  runWith_of_finish (finish_of_execute he)

end Run

def plainHook : Request :=
  ⟨.hook none, false, none⟩

def editCall : HookCall where
  delivery := ⟨[Text.Utf8.encode ("\x7b\"tool_name\":\"Edit\"," ++
    "\"tool_input\":\x7b\"file_path\":\"form.ts\"\x7d\x7d")], .complete⟩
  correlationId := "id"
  thread := ⟨"main", 7, none⟩
  task := "1"
  worker := ⟨"worker", 8, none⟩

/-- A workplace without variables that has the given files and no others. -/
def workplaceOf (files : List (Place × List UInt8)) : Workplace where
  tree := files.foldl (fun t f => t.addFile f.1 f.2) (FileTree.empty.makePath ["work"])
  cwd := ["work"]
  environment := []
  now := ⟨"2026-01-01", "00"⟩
  library := ⟨"appender", fun item => ("filter", item)⟩
  logger := none

theorem load_workplaceOf_nil :
    Settings.load (workplaceOf []).tree ["work"] [] none = .ok default :=
  Settings.load_eq_default (by decide +kernel)

theorem not_unloggable_workplaceOf_nil :
    ¬ (workplaceOf []).Unloggable LoggingSettings.default := by
  rw [Workplace.unloggable_iff_of_lookup_eq_none rfl]
  rintro ⟨e, h⟩
  have hl : ((workplaceOf []).openLog LoggingSettings.default).1.isOk = true := by decide +kernel
  rw [h] at hl
  cases hl

end Cli

end QualityGate
