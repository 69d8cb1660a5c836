import QualityGate.Proofs.Cli.Execution
import QualityGate.Proofs.Cli.Response
import QualityGate.Proofs.Gate.FirstPass

namespace QualityGate

open Log Recording

namespace Cli.HookCall

/-- What the command comes to with the given gate, which finds the world as it is given: which
commands it carries out, how it ends and what it says. -/
structure Dispatched {σ : Type} (call : HookCall) (hook : HookSettings) (gate : Gate (WorldM σ))
    (w : World σ) (commands : List Turn) (status : ExitStatus) (output : Output) : Prop where
  /-- Only a payload that asks for a check has a tool started. -/
  starts : commands ≠ [] → call.Asks hook
  /-- Only a payload that asks for a check can block the agent. -/
  blocks : status.code = 2 → call.Asks hook
  /-- For a payload that asks for a check the gate decides. -/
  decides : ∀ p operation file, Payload.parse call.delivery.text = .ok p →
    p.Admitted hook operation file →
      status.code = codeOf (gate.run ⟨file, call.correlationId, some operation⟩ w).1
  responds : ∃ narration, Response call hook (fun e => (gate.run e w).1) status narration ∧
    output.stdout = spoken narration

end Cli.HookCall

namespace Facilities

variable {σ : Type}

/-- The same facilities with the given host, and the commands that it carries out are noted. -/
def observed (f : Facilities (Fragile (WorldM σ))) (host : Host (WorldM σ)) :
    Facilities (Fragile (Recording Turn (WorldM σ))) where
  settings := f.settings
  startLogger l := ExceptT.mk (StateT.lift (f.startLogger l).run)
  host := host.recorded.lift

theorem observed_startLogger (f : Facilities (Fragile (WorldM σ))) (host : Host (WorldM σ))
    {l : LoggingSettings} {said : Output} {w w₁ : World σ}
    (h : (f.startLogger l).run w = (.ok said, w₁)) :
    ((f.observed host).startLogger l).run [] w = ((.ok said, []), w₁) := by
  change ((((f.startLogger l).run w).1, []), ((f.startLogger l).run w).2) = _
  rw [h]

end Facilities

namespace Cli

namespace HookCall

variable {σ : Type} (call : HookCall) (f : Facilities (Fragile (WorldM σ)))
  (host : Host (WorldM σ)) {config : Option String} (timeoutMs : Option UInt64)
  {settings : Settings} {said : Output} {w w₁ w₂ : World σ} {status : ExitStatus}
  {output : Output} {l : List Turn}

theorem execute_observed (hs : f.settings config = .ok settings)
    (hl : (f.startLogger settings.logging).run w = (.ok said, w₁))
    (hr : call.respond (m := Recording Turn (WorldM σ)) host.recorded.lift
      (withTimeout settings timeoutMs) [] w₁ = (((status, output), l), w₂)) :
    (call.execute (f.observed host) config timeoutMs).run [] w =
      ((.ok (status, said ++ output), l), w₂) := by
  have hs' : (f.observed host).settings config = .ok settings := hs
  let z := call.respond (m := Recording Turn (WorldM σ)) host.recorded.lift
    (withTimeout settings timeoutMs) [] w₁
  simp only [execute, hs', withTimeout_logging, ExceptT.run_bind]
  rw [Recording.bind_eq, f.observed_startLogger host hl]
  change ((Except.ok (z.1.1.1, said ++ z.1.1.2), z.1.2), z.2) = _
  rw [show z = _ from hr]

/-- The response to a payload carries commands out, and blocks the agent, only for one that asks for
a check. -/
theorem respond_dispatched (hv : settings.validate = .ok ()) (w : World σ) :
    ∃ gate l status output w₁ w₂, Gate.ofSettings host settings = .ok gate ∧
      call.respond (m := WorldM σ) host.lift (withTimeout settings timeoutMs) w =
        ((status, output), w₂) ∧
      call.respond (m := Recording Turn (WorldM σ)) host.recorded.lift
        (withTimeout settings timeoutMs) [] w = (((status, output), l), w₂) ∧
      w₁.state = w.state ∧ Dispatched call settings.hook gate w₁ l status output := by
  obtain ⟨p, hp⟩ := Settings.exists_policy hv
  let gate : Gate (WorldM σ) := ⟨Toolbox.checker host settings.tools,
    Toolbox.fixer host settings.tools, ErrorList.text?, p, settings.remediation.revalidate⟩
  have hg : Gate.ofSettings host (withTimeout settings timeoutMs) = .ok gate := by
    cases timeoutMs <;> exact Gate.ofSettings_eq host hp
  have hg' : Gate.ofSettings host.recorded (withTimeout settings timeoutMs) = .ok
      (gate.restaff (Toolbox.checker host.recorded settings.tools)
        (Toolbox.fixer host.recorded settings.tools)) := by
    cases timeoutMs <;> exact Gate.ofSettings_eq host.recorded hp
  have hrun := Gate.records_run_ofSettings hg hg'
  obtain ⟨⟨⟨status, output⟩, w₂⟩, hr⟩ : ∃ x, call.respond (m := WorldM σ) host.lift
      (withTimeout settings timeoutMs) w = x := ⟨_, rfl⟩
  obtain ⟨l, hasks, hr'⟩ := (records_respond hg hg' hrun).run_eq w
  rw [hr] at hr'
  obtain ⟨w₁, narration, hw, hresp, ho⟩ := respond_response hg hr
  have hresp' := hresp.of_withTimeout
  refine ⟨gate, l, status, output, w₁, w₂, Gate.ofSettings_eq host hp, hr, hr', hw, ?_⟩
  exact ⟨fun h => (hasks h).of_withTimeout, hresp'.asks, fun p operation file => hresp'.code_eq,
    narration, hresp', ho⟩

end HookCall

/-- On a host whose commands end and do not break down, the response is what it is apart from the
other things that a host may do. -/
theorem HookCall.run_respond_lift {σ : Type} {call : HookCall} {host : Host (WorldM σ)}
    {settings : Settings} {x : ExitStatus × Output} {w w₂ : World σ}
    (hr : call.respond (m := WorldM σ) host.lift settings w = (x, w₂)) :
    (call.respond (m := Stalling (WorldM σ)) host.lift settings).run w = (some x, w₂) := by
  have h : call.respond (m := Stalling (WorldM σ)) host.lift settings =
      liftM (call.respond (m := WorldM σ) host.lift settings) :=
    call.respond_rebase (host.lift : Host (Fragile (WorldM σ))) settings
  rw [h, Stalling.run_liftM, hr]

/-- With a logger that can start, the hook carries commands out, and blocks the agent, only for a
payload that asks for a check, and then it ends as the gate decides. -/
theorem runWith_dispatched (r : Request) (w : Workplace) (host : Host (WorldM Workplace))
    (call : HookCall) {timeoutMs : Option UInt64} {settings : Settings}
    (ht : r.task = .hook timeoutMs)
    (hs : Settings.load w.tree w.cwd w.environment r.config = .ok settings)
    (hl : ¬ w.Unloggable settings.logging) :
    ∃ gate l status output w₁ w₂, Gate.ofSettings host settings = .ok gate ∧
      r.runWith (.atWorkplace w host.lift) w call =
        some ⟨status.code, output, w₂.state, w₂.journal⟩ ∧
      (call.execute ((Facilities.atWorkplace (m := WorldM Workplace) w host.lift).observed host)
        r.config timeoutMs).run [] (.start w) = ((.ok (status, output), l), w₂) ∧
      w₁.state = (Workplace.startLogger settings.logging w).2 ∧
      HookCall.Dispatched call settings.hook gate w₁ l status output ∧
      ∀ (p : Payload) (verdict : Payload.Verdict),
        p.screen settings.hook = verdict ↔ p.Judged settings.hook verdict := by
  have hv := Settings.validate_of_load hs
  obtain ⟨hu, -⟩ | ⟨-, answer, w', ha⟩ :=
    w.startLogger_cases (Settings.isSome_levelOf?_of_validate hv)
  · exact absurd hu hl
  · obtain ⟨said, w₀, hl, hsaid, hw₀⟩ := Facilities.announce_of_ok (congrArg Prod.fst ha)
    obtain ⟨gate, l, status, output, w₁, w₂, hg, hr, hr', hw₁, hd⟩ :=
      call.respond_dispatched host timeoutMs hv w₀
    refine ⟨gate, l, status, said ++ output, w₁, w₂, hg, ?_, ?_, hw₁.trans hw₀, ?_,
      fun p verdict => p.screen_eq_iff settings.hook verdict⟩
    · have he := call.execute_started (.atWorkplace w host.lift) timeoutMs hs
        (Facilities.run_startLogger host.lift hl) (HookCall.run_respond_lift hr)
      rw [← r.execute_hook ht _ call (wantsColours w.environment)] at he
      exact runWith_of_execute he
    · exact call.execute_observed (.atWorkplace w host.lift) host timeoutMs hs hl hr'
    · obtain ⟨narration, hn, ho⟩ := hd.responds
      refine ⟨hd.starts, hd.blocks, hd.decides, narration, hn, ?_⟩
      rw [Output.stdout_append, hsaid, ho, String.empty_append]

def idleHost : Host (WorldM Workplace) where
  perform _ := return .ok ⟨some 2, [], []⟩

def editPayload : Payload :=
  ⟨some "Edit", some ⟨some "form.ts", none, none, none, none⟩⟩

theorem parse_editCall : Payload.parse editCall.delivery.text = .ok editPayload := by
  have h : (Payload.parse editCall.delivery.text).toOption = some editPayload := by
    decide +kernel
  cases hp : Payload.parse editCall.delivery.text with
  | error e =>
    rw [hp] at h
    cases h
  | ok p =>
    rw [hp] at h
    exact congrArg _ (Option.some.inj h)

theorem admitted_editPayload : editPayload.Admitted HookSettings.default "Edit" "form.ts" :=
  (editPayload.screen_eq_accept_iff ..).mp (by decide +kernel)

theorem codeOf_run_idleHost {gate : Gate (WorldM Workplace)}
    (hg : Gate.ofSettings idleHost default = .ok gate) (w : World Workplace) :
    HookCall.codeOf (gate.run ⟨"form.ts", "id", some "Edit"⟩ w).1 = 2 := by
  obtain rfl := Except.ok.inj hg
  with_unfolding_all rfl

theorem runWith_dispatched_idleHost :
    plainHook.task = .hook none ∧
      Settings.load (workplaceOf []).tree ["work"] [] none = .ok default ∧
      ¬ (workplaceOf []).Unloggable LoggingSettings.default ∧
      (plainHook.runWith (.atWorkplace (workplaceOf []) idleHost.lift) (workplaceOf [])
        editCall).map Ending.code = some 2 ∧ editCall.Asks HookSettings.default ∧
      ∃ gate l status output w, Gate.ofSettings idleHost default = .ok gate ∧
        HookCall.Dispatched editCall HookSettings.default gate w l status output := by
  have hu := not_unloggable_workplaceOf_nil
  obtain ⟨gate, l, status, output, w₁, w₂, hg, he, -, -, hd, -⟩ := runWith_dispatched plainHook
    (workplaceOf []) idleHost editCall rfl load_workplaceOf_nil hu
  have hc : status.code = 2 :=
    (hd.decides _ _ _ parse_editCall admitted_editPayload).trans (codeOf_run_idleHost hg w₁)
  rw [he]
  exact ⟨rfl, load_workplaceOf_nil, hu, congrArg some hc, hd.blocks hc, gate, l, status, output,
    w₁, hg, hd⟩

end Cli
end QualityGate
