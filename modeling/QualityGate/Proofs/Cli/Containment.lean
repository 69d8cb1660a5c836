import QualityGate.Proofs.Cli.Dispatch
import QualityGate.Proofs.Cli.Endless
import QualityGate.Proofs.Gate.Guard

namespace QualityGate

open Log

theorem ExitStatus.code_mem_of_ne_error {s : ExitStatus} (h : s ≠ .error) : s.code ∈ [0, 2] := by
  cases s with
  | success => decide
  | error => exact absurd rfl h
  | qualityIssues => decide

namespace Cli

theorem breakdownCode_notMem : breakdownCode ∉ [0, 2] := by decide

namespace HookCall

section Status

variable {m : Type → Type} [Monad m] [LawfulMonad m] [Journal m] [LawfulJournal m]
  (call : HookCall) (host : Host (Fragile m)) (settings : Settings)

theorem gateFile_status_ne_error (e : Errand) :
    Yields (fun x => x.1 ≠ .error) (call.gateFile host settings e) := by
  unfold gateFile
  cases Gate.ofSettings host settings with
  | error fault => exact .bind fun _ => .pure nofun
  | ok gate =>
    exact gate.guard_status_ne_error settings.hook.feedbackJson call.task
      (Breakdown.report call.worker) e

theorem attend_status_ne_error (p : Payload) :
    Yields (fun x => x.1 ≠ .error) (call.attend host settings p) := by
  unfold attend
  cases p.screen settings.hook with
  | accept operation file =>
    refine (call.gateFile_status_ne_error host settings _).bind_of ?_
    rintro ⟨status, output⟩ h
    exact .pure h
  | missingFields | unsupportedOperation _ | unsupportedFile _ => exact .bind fun _ => .pure nofun

theorem respond_status_ne_error : Yields (fun x => x.1 ≠ .error) (call.respond host settings) := by
  unfold respond
  refine .bind fun text => ?_
  cases Payload.parse text with
  | error e => exact .bind fun _ => .pure nofun
  | ok p =>
    refine .bind fun _ => (call.attend_status_ne_error host settings p).bind_of ?_
    rintro ⟨status, output⟩ h
    exact .pure h

end Status

/-- What comes of the call: it never ends, or it ends in one of three ways. -/
structure Contained (call : HookCall) (settings : Settings) (timeoutMs : Option UInt64)
    (host : Host (Fragile (Stalling (WorldM Workplace)))) (w : Workplace)
    (launches : List (Launch Workplace)) (result : Option (Nat × Output)) : Prop where
  endless : result = none ↔ host.Waits launches
  broken : (∃ output, result = some (101, output)) ↔ w.Unloggable settings.logging
  told : ∀ output, result = some (101, output) →
    ∃ b, (Workplace.startLogger settings.logging w).1 = .error b ∧
      output = ⟨"", b.report call.thread⟩
  ended : ¬ w.Unloggable settings.logging → ∀ x, result = some x → x.1 ∈ [0, 2]
  /-- It does not matter to the exit code whether the logger has started. -/
  responds : ¬ w.Unloggable settings.logging →
    ∃ w₁, w₁.state = (Workplace.startLogger settings.logging w).2 ∧
      result.map Prod.fst = ((call.respond (m := Stalling (WorldM Workplace)) host
        (withTimeout settings timeoutMs)).run w₁).1.map fun x => x.1.code

end HookCall

section Workplace

variable {w : Workplace} (host : Host (Fragile (Stalling (WorldM Workplace)))) {r : Request}
  (call : HookCall) {timeoutMs : Option UInt64} {settings : Settings} {w' : Workplace}

theorem finish_of_broken (ht : r.task = .hook timeoutMs)
    (hs : Settings.load w.tree w.cwd w.environment r.config = .ok settings) {b : Breakdown}
    (hl : (Workplace.startLogger settings.logging w).1 = .error b) (colours : Bool) :
    ∃ w₂, (r.finish (.atWorkplace w host) call colours).run (.start w) =
      (some (breakdownCode, ⟨"", b.report call.thread⟩), w₂) := by
  have he := call.execute_broken (.atWorkplace w host) timeoutMs hs
    (Facilities.run_startLogger host (Facilities.announce_of_error hl))
  rw [← r.execute_hook ht _ call colours] at he
  exact ⟨_, finish_of_execute he⟩

theorem finish_of_started (ht : r.task = .hook timeoutMs)
    (hs : Settings.load w.tree w.cwd w.environment r.config = .ok settings)
    {answer : Except StartError Logger}
    (hl : (Workplace.startLogger settings.logging w).1 = .ok answer) (colours : Bool) :
    ∃ said x w₁ w₂, w₁.state = (Workplace.startLogger settings.logging w).2 ∧
      (call.respond (m := Stalling (WorldM Workplace)) host
        (HookCall.withTimeout settings timeoutMs)).run w₁ = (x, w₂) ∧
      (r.finish (.atWorkplace w host) call colours).run (.start w) =
        (x.map fun a => (a.1.code, said ++ a.2), w₂) := by
  obtain ⟨said, w₁, hl, -, hw⟩ := Facilities.announce_of_ok hl
  obtain ⟨⟨x, w₂⟩, hr⟩ : ∃ y, (call.respond (m := Stalling (WorldM Workplace)) host
    (HookCall.withTimeout settings timeoutMs)).run w₁ = y := ⟨_, rfl⟩
  have he := call.execute_started (.atWorkplace w host) timeoutMs hs
    (Facilities.run_startLogger host hl) hr
  rw [← r.execute_hook ht _ call colours] at he
  refine ⟨said, x, w₁, w₂, hw, hr, (finish_of_execute he).trans ?_⟩
  rw [Option.map_map]
  rfl

/-- With settings that load, the hook ends with the exit code of a success or with that of a block,
unless a command of its tools never ends or the start of its logger breaks down. -/
theorem runWith_contained (r : Request) (w : Workplace)
    (host : Host (Fragile (Stalling (WorldM Workplace)))) (call : HookCall)
    {timeoutMs : Option UInt64} {settings : Settings} (ht : r.task = .hook timeoutMs)
    (hs : Settings.load w.tree w.cwd w.environment r.config = .ok settings) :
    ∃ result launches w₂,
      (r.finish (.atWorkplace w host.watched) call (wantsColours w.environment)).run []
        (.start w) = ((result, launches), w₂) ∧
      r.runWith (.atWorkplace w host) w call =
        result.map (fun x => ⟨x.1, x.2, w₂.state, w₂.journal⟩) ∧
      call.Contained settings timeoutMs host w launches result := by
  obtain ⟨launches, hx, hw⟩ :=
    r.watches_finish ht w host call (wantsColours w.environment) [] (.start w)
  -- a level that makes sense leaves the workplace as the only cause of a breakdown
  have hv := Settings.isSome_levelOf?_of_validate (Settings.validate_of_load hs)
  obtain ⟨⟨result, w₂⟩, hf⟩ : ∃ y, (r.finish (.atWorkplace w host) call
    (wantsColours w.environment)).run (.start w) = y := ⟨_, rfl⟩
  have hf' : (r.finish (.atWorkplace w host) call (wantsColours w.environment)) (.start w) =
    (result, w₂) := hf
  rw [hf'] at hx hw
  refine ⟨result, launches, w₂, hx, runWith_of_finish hf, ?_⟩
  rcases w.startLogger_cases hv with ⟨hu, b, w', hl⟩ | ⟨hu, answer, w', hl⟩
  · have hl := congrArg Prod.fst hl
    obtain ⟨w₃, hb⟩ := finish_of_broken host call ht hs hl (wantsColours w.environment)
    obtain ⟨rfl, rfl⟩ := Prod.mk.inj (hf.symm.trans hb)
    refine ⟨hw, iff_of_true ⟨_, rfl⟩ hu, fun output ho => ⟨b, hl, ?_⟩, absurd hu, absurd hu⟩
    exact (congrArg Prod.snd (Option.some.inj ho)).symm
  · obtain ⟨said, x, w₁, w₃, hw₁, hr, hb⟩ :=
      finish_of_started host call ht hs (congrArg Prod.fst hl) (wantsColours w.environment)
    obtain ⟨rfl, rfl⟩ := Prod.mk.inj (hf.symm.trans hb)
    have hcode : ∀ a, x.map (fun a => (a.1.code, said ++ a.2)) = some a → a.1 ∈ [0, 2] := by
      intro a ha
      obtain ⟨y, rfl, rfl⟩ := Option.map_eq_some_iff.mp ha
      exact ExitStatus.code_mem_of_ne_error
        ((call.respond_status_ne_error host _).of_run_eq_some (congrArg Prod.fst hr))
    have hne : ¬ ∃ output, x.map (fun a => (a.1.code, said ++ a.2)) =
        some (breakdownCode, output) := by
      rintro ⟨output, ho⟩
      exact breakdownCode_notMem (hcode _ ho)
    refine ⟨hw, iff_of_false hne hu, fun output ho => absurd ⟨output, ho⟩ hne, fun _ => hcode,
      fun _ => ⟨w₁, hw₁, ?_⟩⟩
    rw [hr, Option.map_map]
    rfl

end Workplace

def breakingHost : Host (Fragile (Stalling (WorldM Workplace))) where
  perform _ := throw ⟨"", "worker", "no more threads"⟩

def endlessHost : Host (Fragile (Stalling (WorldM Workplace))) where
  perform _ := ExceptT.mk OptionT.fail

theorem respond_endlessHost (w : World Workplace) :
    ((editCall.respond (m := Stalling (WorldM Workplace)) endlessHost default).run w).1 = none := by
  obtain ⟨policy, hp⟩ := Settings.exists_policy (Settings.validate_of_load load_workplaceOf_nil)
  have hg := Gate.ofSettings_eq endlessHost hp
  have hv : editPayload.screen (default : Settings).hook = .accept "Edit" "form.ts" :=
    (editPayload.screen_eq_accept_iff ..).mpr admitted_editPayload
  have ht : editCall.delivery.text?.isNone = false := by decide +kernel
  simp only [HookCall.respond, Payload.receive, ht, Bool.false_eq_true, if_false, pure_bind,
    parse_editCall, HookCall.attend, hv, HookCall.gateFile, hg, Gate.guard, OptionT.run_bind,
    Option.elimM]
  with_unfolding_all rfl

theorem runWith_contained_editCall :
    plainHook.task = .hook none ∧
      Settings.load (workplaceOf []).tree ["work"] [] none = .ok default ∧
      ¬ (workplaceOf []).Unloggable LoggingSettings.default ∧
      (∃ e, plainHook.runWith (.atWorkplace (workplaceOf []) breakingHost) (workplaceOf [])
        editCall = some e ∧ e.code ∈ [0, 2]) ∧
      plainHook.runWith (.atWorkplace (workplaceOf []) endlessHost) (workplaceOf []) editCall =
        none := by
  have hu := not_unloggable_workplaceOf_nil
  obtain ⟨x, l, w₂, -, hr, hc⟩ := runWith_contained plainHook (workplaceOf []) breakingHost editCall
    rfl load_workplaceOf_nil
  obtain ⟨y, l', w₂', -, hr', hc'⟩ := runWith_contained plainHook (workplaceOf []) endlessHost
    editCall rfl load_workplaceOf_nil
  refine ⟨rfl, load_workplaceOf_nil, hu, ?_, ?_⟩
  · have hx : x ≠ none := fun hn => by
      obtain ⟨launch, -, h⟩ := hc.endless.mp hn
      cases h
    obtain ⟨a, rfl⟩ := Option.ne_none_iff_exists'.mp hx
    exact ⟨_, hr, hc.ended hu a rfl⟩
  · obtain ⟨w₁, -, he⟩ := hc'.responds hu
    rw [HookCall.withTimeout, respond_endlessHost, Option.map_none, Option.map_eq_none_iff] at he
    rw [hr', he, Option.map_none]

/-- Where a file stands in the way of the directory for log files, the hook breaks down. -/
theorem not_all_contained :
    ¬ ∀ (r : Request) (w : Workplace) (call : HookCall) (timeoutMs : Option UInt64)
      (settings : Settings), r.task = .hook timeoutMs →
      Settings.load w.tree w.cwd w.environment r.config = .ok settings →
      ∃ e, r.run w call = some e ∧ e.code ∈ [0, 2] := by
  intro h
  let w := workplaceOf [(["work", ".quality-hook", "logs"], [])]
  have hs : Settings.load w.tree w.cwd [] none = .ok default :=
    Settings.load_eq_default (by decide +kernel)
  have hu : (w.openLog LoggingSettings.default).1 = .error (.directory .fileExists) := by
    decide +kernel
  rcases w.startLogger_cases (l := .default) rfl with ⟨-, b, w', hl⟩ | ⟨hn, -⟩
  · obtain ⟨w₂, hf⟩ := finish_of_broken Sandbox.host.lift editCall (r := plainHook) rfl hs
      (congrArg Prod.fst hl) (wantsColours w.environment)
    obtain ⟨e, he, hmem⟩ := h plainHook w editCall none default rfl hs
    rw [Request.run, Facilities.ofWorkplace, runWith_of_finish hf] at he
    obtain rfl := Option.some.inj he
    exact breakdownCode_notMem hmem
  · exact hn (.inl ⟨_, hu⟩)

end Cli

end QualityGate
