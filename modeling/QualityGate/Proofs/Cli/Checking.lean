import QualityGate.Proofs.Cli.Dispatch

namespace QualityGate

open Log Recording

section Gate

variable {m n : Type → Type} [Monad m] [Monad n] [MonadLiftT m n] [Journal m] [Journal n]
  [LiftsJournal m n]

theorem Gate.evaluate_lift (g : Gate m) (e : Errand) :
    (g.lift : Gate n).evaluate e = liftM (g.evaluate e) := by
  rw [evaluate, evaluate, LiftsJournal.lift_within, assess_lift]

namespace Cli.CheckCall

theorem summary_lift (call : CheckCall) (g : Gate m) :
    call.summary (g.lift : Gate n) = liftM (call.summary g) := by
  simp only [summary]
  split
  · simp only [Gate.evaluate_lift, liftM_bind, liftM_pure]
  · simp only [Gate.run_lift, liftM_bind, liftM_pure]

def failure (call : CheckCall) (e : GateError) : Failure :=
  ⟨"Quality check failed for " ++ call.file, e.chain⟩

theorem perform_lift (call : CheckCall) {host : Host m} {settings : Settings} {gate : Gate m}
    (hg : Gate.ofSettings host settings = .ok gate) :
    call.perform (host.lift : Host n) settings =
      liftM (call.summary gate >>= fun r => pure (r.mapError call.failure) : m _) := by
  simp only [perform, Gate.ofSettings_lift hg, summary_lift, liftM_bind, liftM_pure]
  rfl

end Cli.CheckCall

end Gate

namespace Cli.CheckCall

variable {σ : Type} (call : CheckCall) {host : Host (WorldM σ)} {config : Option String}
  (json colours : Bool) {settings : Settings}
  {said : Output} {w w₁ w₂ : World σ} {gate : Gate (WorldM σ)}
  {gate' : Gate (Recording Turn (WorldM σ))} {r : Except GateError CheckSummary} {l : List Turn}

theorem execute_started (f : Facilities (Fragile (Stalling (WorldM σ)))) (hh : f.host = host.lift)
    (hs : f.settings config = .ok settings)
    (hl : (f.startLogger settings.logging).run.run w = (some (.ok said), w₁))
    (hg : Gate.ofSettings host settings = .ok gate)
    (hr : call.summary gate w₁ = (r, w₂)) :
    (call.execute f config json colours).run.run w =
      (some (.ok ((conclude json colours (r.mapError call.failure)).1,
        said ++ (conclude json colours (r.mapError call.failure)).2)), w₂) := by
  let z := call.summary gate w₁
  simp only [execute, hs, ExceptT.run_bind, OptionT.run_bind]
  rw [Option.elimM, WorldM.bind_eq, hl, hh, call.perform_lift hg]
  change (some (Except.ok ((conclude json colours (z.1.mapError call.failure)).1,
    said ++ (conclude json colours (z.1.mapError call.failure)).2)), z.2) = _
  rw [show z = _ from hr]

theorem execute_observed (f : Facilities (Fragile (WorldM σ)))
    (hs : f.settings config = .ok settings)
    (hl : (f.startLogger settings.logging).run w = (.ok said, w₁))
    (hg : Gate.ofSettings host.recorded settings = .ok gate')
    (hr : call.summary gate' [] w₁ = ((r, l), w₂)) :
    (call.execute (f.observed host) config json colours).run [] w =
      ((.ok ((conclude json colours (r.mapError call.failure)).1,
        said ++ (conclude json colours (r.mapError call.failure)).2), l), w₂) := by
  have hs' : (f.observed host).settings config = .ok settings := hs
  let z := call.summary gate' [] w₁
  simp only [execute, hs', ExceptT.run_bind]
  rw [Recording.bind_eq, f.observed_startLogger host hl]
  rw [show (f.observed host).host = host.recorded.lift from rfl, call.perform_lift hg]
  change ((Except.ok ((conclude json colours (z.1.1.mapError call.failure)).1,
    said ++ (conclude json colours (z.1.1.mapError call.failure)).2), z.1.2), z.2) = _
  rw [show z = _ from hr]

end Cli.CheckCall
end QualityGate
