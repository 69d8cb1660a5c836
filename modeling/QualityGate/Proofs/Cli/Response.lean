import QualityGate.Cli.Hook
import QualityGate.Proofs.Gate.Delegation
import QualityGate.Proofs.Gate.Lifting
import QualityGate.Proofs.Payload.Screening

namespace QualityGate

open Log Recording

/-- What a narration tells people. -/
def spoken (ns : List Narration) : String :=
  String.join (ns.map fun n => n.message ++ "\n")

theorem Output.stdout_append (a b : Output) : (a ++ b).stdout = a.stdout ++ b.stdout := rfl

theorem spoken_cons (n : Narration) (ns : List Narration) :
    spoken (n :: ns) = n.message ++ "\n" ++ spoken ns := by
  simp [spoken]

theorem Output.stdout_ofReport (feedback : Bool) (r : HookReport) :
    (Output.ofReport feedback r).stdout = spoken r.narration := by
  rw [Output.ofReport]
  induction r.narration with
  | nil => cases r.blocking <;> rfl
  | cons n ns ih => rw [List.foldr_cons, stdout_append, ih, spoken_cons]; rfl

namespace Cli.HookCall

/-- What is made of a delivery: the status that the command ends with and what is narrated, by the
runs of a gate. -/
inductive Response (call : HookCall) (hook : HookSettings)
    (run : Errand → Except GateError HookReport) : ExitStatus → List Narration → Prop
  | malformed {e : GateError} (hp : Payload.parse call.delivery.text = .error e) :
      Response call hook run .success [.started call.correlationId, .invalidPayload e.message]
  | skipped {p : Payload} (hp : Payload.parse call.delivery.text = .ok p)
      (hn : ∀ operation file, ¬ p.Admitted hook operation file) :
      Response call hook run .success [.started call.correlationId]
  | faulty {p : Payload} {operation file name : String} {fault : GateError}
      (hp : Payload.parse call.delivery.text = .ok p) (ha : p.Admitted hook operation file)
      (hn : Path.EndsIn file name)
      (hr : run ⟨file, call.correlationId, some operation⟩ = .error fault) :
      Response call hook run .success [.started call.correlationId, .processing name,
        .hookError fault.message call.correlationId]
  | processed {p : Payload} {operation file name : String} {r : HookReport}
      (hp : Payload.parse call.delivery.text = .ok p) (ha : p.Admitted hook operation file)
      (hn : Path.EndsIn file name)
      (hr : run ⟨file, call.correlationId, some operation⟩ = .ok r) :
      Response call hook run r.status
        (.started call.correlationId :: .processing name :: r.narration)

section Equations

variable {m : Type → Type} [Monad m] [LawfulMonad m] [Journal m] [LawfulJournal m]

theorem gateFile_lift (call : HookCall) {host : Host m} {settings : Settings} {gate : Gate m}
    (hg : Gate.ofSettings host settings = .ok gate) (e : Errand) :
    call.gateFile host.lift settings e = (do
      match ← gate.run e with
      | .ok report => return (report.status, .ofReport settings.hook.feedbackJson report)
      | .error fault =>
        Gate.forgive settings.hook.feedbackJson e.correlationId fault.message) := by
  rw [gateFile, Gate.ofSettings_lift hg]
  exact gate.guard_lift settings.hook.feedbackJson call.task (Breakdown.report call.worker) e

variable {n : Type → Type} [Monad n] [LawfulMonad n] [Journal n] [MonadLiftT m n]
  [LiftsJournal m n] (call : HookCall) (host : Host (Fragile m)) (settings : Settings)

omit [LawfulJournal m]

theorem gateFile_rebase (e : Errand) :
    call.gateFile (m := n) host.rebase settings e = liftM (call.gateFile (m := m) host settings e)
    := by
  rw [gateFile, gateFile, Gate.ofSettings_rebase]
  cases Gate.ofSettings host settings with
  | ok gate => exact gate.guard_rebase _ _ _ e
  | error e => simp only [Except.map, liftM_bind, lift_event, liftM_pure]

theorem attend_rebase (p : Payload) :
    call.attend (m := n) host.rebase settings p = liftM (call.attend (m := m) host settings p) := by
  unfold attend
  cases p.screen settings.hook with
  | accept operation file => simp only [gateFile_rebase call host, liftM_bind, liftM_pure]
  | missingFields | unsupportedOperation _ | unsupportedFile _ =>
    simp only [liftM_bind, lift_event, liftM_pure]

omit [LawfulMonad m] [LawfulMonad n] in
theorem receive_lift (d : Payload.Delivery) :
    Payload.receive (m := n) d = liftM (Payload.receive (m := m) d) := by
  unfold Payload.receive
  split <;> simp only [liftM_bind, lift_event, liftM_pure]

theorem respond_rebase :
    call.respond (m := n) host.rebase settings = liftM (call.respond (m := m) host settings) := by
  simp only [respond, receive_lift (m := m) (n := n), liftM_bind]
  refine bind_congr fun text => ?_
  cases Payload.parse text with
  | error e => simp only [liftM_bind, lift_event, liftM_pure]
  | ok p => simp only [liftM_bind, lift_event, liftM_pure, attend_rebase call host]

end Equations

section Response

variable {σ : Type} {call : HookCall} {settings : Settings} {host : Host (WorldM σ)}
  {gate : Gate (WorldM σ)} {p : Payload} {w w₂ : World σ} {status : ExitStatus} {output : Output}

theorem receive_eq (d : Payload.Delivery) (w : World σ) :
    ∃ w', Payload.receive (m := WorldM σ) d w = (d.text, w') ∧ w'.state = w.state := by
  unfold Payload.receive
  split
  · exact ⟨_, rfl, rfl⟩
  · exact ⟨w, rfl, rfl⟩

theorem gateFile_response (hg : Gate.ofSettings host settings = .ok gate) (e : Errand)
    (h : call.gateFile (m := WorldM σ) host.lift settings e w = ((status, output), w₂)) :
    (∃ r, (gate.run e w).1 = .ok r ∧ status = r.status ∧ output.stdout = spoken r.narration) ∨
      ∃ fault, (gate.run e w).1 = .error fault ∧ status = .success ∧
        output.stdout = spoken [.hookError fault.message e.correlationId] := by
  rw [gateFile_lift call hg, WorldM.bind_eq] at h
  cases hr : (gate.run e w).1 with
  | ok r =>
    rw [hr] at h
    cases h
    exact .inl ⟨r, rfl, rfl, Output.stdout_ofReport _ r⟩
  | error fault =>
    rw [hr] at h
    cases h
    exact .inr ⟨fault, rfl, rfl, rfl⟩

theorem attend_response (hg : Gate.ofSettings host settings = .ok gate)
    (hp : Payload.parse call.delivery.text = .ok p)
    (h : call.attend (m := WorldM σ) host.lift settings p w = ((status, output), w₂)) :
    ∃ narration, Response call settings.hook (fun e => (gate.run e w).1) status
        (.started call.correlationId :: narration) ∧ output.stdout = spoken narration := by
  unfold attend at h
  cases hv : p.screen settings.hook with
  | accept operation file =>
    have ha := (p.screen_eq_accept_iff ..).mp hv
    obtain ⟨name, -, hn, -⟩ := ha.covered
    have hname : p.fileName?.getD file = name := by
      rw [ha.locates.fileName?_eq hn, Option.getD_some]
    obtain ⟨⟨⟨status', output'⟩, w'⟩, hx⟩ : ∃ x, call.gateFile (m := WorldM σ) host.lift settings
        ⟨file, call.correlationId, some operation⟩ w = x := ⟨_, rfl⟩
    simp only [hv, hname, WorldM.bind_eq, hx] at h
    cases h
    obtain ⟨r, hr, rfl, ho⟩ | ⟨fault, hr, rfl, ho⟩ := gateFile_response hg _ hx
    · refine ⟨_, .processed hp ha hn hr, ?_⟩
      rw [Output.stdout_append, ho, spoken_cons]
      rfl
    · refine ⟨_, .faulty hp ha hn hr, ?_⟩
      rw [Output.stdout_append, ho, spoken_cons]
      rfl
  | missingFields | unsupportedOperation _ | unsupportedFile _ =>
    have hn : ∀ operation file, ¬ p.Admitted settings.hook operation file := by
      intro operation file ha
      rw [← p.screen_eq_accept_iff, hv] at ha
      cases ha
    simp only [hv] at h
    cases h
    exact ⟨[], .skipped hp hn, rfl⟩

theorem respond_response (hg : Gate.ofSettings host settings = .ok gate)
    (h : call.respond (m := WorldM σ) host.lift settings w = ((status, output), w₂)) :
    ∃ w' narration, w'.state = w.state ∧
      Response call settings.hook (fun e => (gate.run e w').1) status narration ∧
      output.stdout = spoken narration := by
  obtain ⟨w₁, hw, hs⟩ := receive_eq call.delivery w
  simp only [respond, WorldM.bind_eq, hw] at h
  cases hp : Payload.parse call.delivery.text with
  | error e =>
    simp only [hp] at h
    cases h
    exact ⟨w₁, _, hs, .malformed hp, rfl⟩
  | ok p =>
    simp only [hp, WorldM.bind_eq] at h
    generalize hw' : (event .debug .payload "Payload received" ["tool_name", "file_path"] :
      WorldM σ Unit) w₁ = w' at h
    have hs' : w'.2.state = w.state := by
      rw [← hw', ← hs]
      rfl
    obtain ⟨⟨⟨status', output'⟩, w₃⟩, hx⟩ :
        ∃ x, call.attend (m := WorldM σ) host.lift settings p w'.2 = x := ⟨_, rfl⟩
    rw [hx] at h
    cases h
    obtain ⟨narration, hr, ho⟩ := attend_response hg hp hx
    refine ⟨w'.2, _, hs', hr, ?_⟩
    rw [Output.stdout_append, ho, spoken_cons]
    rfl

end Response

section Records

variable {m : Type → Type} [Monad m] [LawfulMonad m] [Journal m] [LawfulJournal m]
  {call : HookCall} {settings : Settings} {host : Host m} {gate : Gate m}
  {gate' : Gate (Recording Turn m)}

/-- The call asks for a check. -/
def Asks (call : HookCall) (hook : HookSettings) : Prop :=
  ∃ p operation file, Payload.parse call.delivery.text = .ok p ∧ p.Admitted hook operation file

omit [LawfulJournal m] in
theorem records_receive (d : Payload.Delivery) :
    Records (fun l text => l = [] ∧ text = d.text) (Payload.receive (m := Recording Turn m) d)
      (Payload.receive (m := m) d) :=
  .ite (fun _ => .event_bind _ _ _ _ (.pure ⟨rfl, rfl⟩)) (fun _ => .pure ⟨rfl, rfl⟩)

theorem records_gateFile (hg : Gate.ofSettings host settings = .ok gate)
    (hg' : Gate.ofSettings host.recorded settings = .ok gate')
    (hr : ∀ e, Records (fun _ _ => True) (gate'.run e) (gate.run e)) (e : Errand) :
    Records (fun _ _ => True)
      (call.gateFile (m := Recording Turn m) host.recorded.lift settings e)
      (call.gateFile (m := m) host.lift settings e) := by
  rw [gateFile_lift call hg, gateFile_lift call hg']
  refine (hr e).bind fun l result _ => ?_
  cases result with
  | ok r => exact .pure trivial
  | error fault => exact .event_bind _ _ _ _ (.pure trivial)

theorem records_attend (hg : Gate.ofSettings host settings = .ok gate)
    (hg' : Gate.ofSettings host.recorded settings = .ok gate')
    (hr : ∀ e, Records (fun _ _ => True) (gate'.run e) (gate.run e)) {p : Payload}
    (hp : Payload.parse call.delivery.text = .ok p) :
    Records (fun l _ => l ≠ [] → call.Asks settings.hook)
      (call.attend (m := Recording Turn m) host.recorded.lift settings p)
      (call.attend (m := m) host.lift settings p) := by
  unfold attend
  cases hv : p.screen settings.hook with
  | accept operation file =>
    have ha : call.Asks settings.hook :=
      ⟨p, operation, file, hp, (p.screen_eq_accept_iff ..).mp hv⟩
    refine (records_gateFile hg hg' hr _).bind fun l a _ => ?_
    obtain ⟨status, output⟩ := a
    exact .pure fun _ => ha
  | missingFields | unsupportedOperation _ | unsupportedFile _ =>
    exact .event_bind _ _ _ _ (.pure fun h => absurd rfl h)

theorem records_respond (hg : Gate.ofSettings host settings = .ok gate)
    (hg' : Gate.ofSettings host.recorded settings = .ok gate')
    (hr : ∀ e, Records (fun _ _ => True) (gate'.run e) (gate.run e)) :
    Records (fun l _ => l ≠ [] → call.Asks settings.hook)
      (call.respond (m := Recording Turn m) host.recorded.lift settings)
      (call.respond (m := m) host.lift settings) := by
  refine (records_receive call.delivery).bind fun l text hl => ?_
  obtain ⟨rfl, rfl⟩ := hl
  cases hp : Payload.parse call.delivery.text with
  | error e => exact .event_bind _ _ _ _ (.pure fun h => absurd rfl h)
  | ok p =>
    refine .event_bind _ _ _ _ ((records_attend hg hg' hr hp).bind fun l a ha => ?_)
    obtain ⟨status, output⟩ := a
    exact .pure (by simpa using ha)

end Records

section Timeout

variable {call : HookCall} {settings : Settings} {timeoutMs : Option UInt64} {p : Payload}

theorem admitted_withTimeout {operation file : String} :
    p.Admitted (withTimeout settings timeoutMs).hook operation file ↔
      p.Admitted settings.hook operation file := by
  cases timeoutMs with
  | none => exact Iff.rfl
  | some ms =>
    exact ⟨fun h => ⟨h.names, h.supported, h.locates, h.covered⟩,
      fun h => ⟨h.names, h.supported, h.locates, h.covered⟩⟩

theorem Response.of_withTimeout {run : Errand → Except GateError HookReport}
    {status : ExitStatus} {narration : List Narration}
    (h : Response call (withTimeout settings timeoutMs).hook run status narration) :
    Response call settings.hook run status narration := by
  cases h with
  | malformed hp => exact .malformed hp
  | skipped hp hn => exact .skipped hp fun o f ha => hn o f (admitted_withTimeout.mpr ha)
  | faulty hp ha hn hr => exact .faulty hp (admitted_withTimeout.mp ha) hn hr
  | processed hp ha hn hr => exact .processed hp (admitted_withTimeout.mp ha) hn hr

theorem Asks.of_withTimeout (h : call.Asks (withTimeout settings timeoutMs).hook) :
    call.Asks settings.hook := by
  obtain ⟨p, operation, file, hp, ha⟩ := h
  exact ⟨p, operation, file, hp, admitted_withTimeout.mp ha⟩

end Timeout

section Exact

variable {call : HookCall} {hook : HookSettings} {run : Errand → Except GateError HookReport}
  {status : ExitStatus} {narration : List Narration}

theorem Response.asks (h : Response call hook run status narration) (hc : status.code = 2) :
    call.Asks hook := by
  cases h with
  | malformed _ | skipped _ _ | faulty _ _ _ _ => cases hc
  | processed hp ha _ _ => exact ⟨_, _, _, hp, ha⟩

def codeOf : Except GateError HookReport → Nat
  | .ok r => r.status.code
  | .error _ => 0

theorem Response.code_eq (h : Response call hook run status narration) {p : Payload}
    {operation file : String} (hp : Payload.parse call.delivery.text = .ok p)
    (ha : p.Admitted hook operation file) :
    status.code = codeOf (run ⟨file, call.correlationId, some operation⟩) := by
  cases h with
  | malformed hp' =>
    rw [hp] at hp'
    cases hp'
  | skipped hp' hn =>
    rw [hp] at hp'
    cases hp'
    exact absurd ha (hn operation file)
  | faulty hp' ha' _ hr | processed hp' ha' _ hr =>
    rw [hp] at hp'
    cases hp'
    rw [ha.names.unique ha'.names, ha.locates.unique ha'.locates, hr]
    rfl

end Exact

end Cli.HookCall
end QualityGate
