import QualityGate.Proofs.Gate.Delegation
import QualityGate.Proofs.Gate.Lifting

namespace QualityGate

open Log Recording

variable {τ σ α β : Type}

/-- What a computation gives and records, and the state that it leaves, are the same for all worlds
in the same state. -/
def IgnoresLog (x : Recording τ (WorldM σ) α) : Prop :=
  ∀ (l : List τ) (w w' : World σ), w.state = w'.state →
    (x l w).1 = (x l w').1 ∧ (x l w).2.state = (x l w').2.state

theorem IgnoresLog.bind {x : Recording τ (WorldM σ) α} {f : α → Recording τ (WorldM σ) β}
    (hx : IgnoresLog x) (hf : ∀ a, IgnoresLog (f a)) : IgnoresLog (x >>= f) := by
  intro l w w' h
  obtain ⟨ha, hs⟩ := hx l w w' h
  simp only [Recording.bind_eq, ha]
  exact hf _ _ _ _ hs

/-- The monad of the computations that do not look at the log. -/
def LogFree (τ σ α : Type) : Type :=
  {x : Recording τ (WorldM σ) α // IgnoresLog x}

namespace LogFree

instance : Monad (LogFree τ σ) where
  pure a := ⟨pure a, fun _ _ _ h => ⟨rfl, h⟩⟩
  bind x f := ⟨x.1 >>= fun a => (f a).1, x.2.bind fun a => (f a).2⟩

instance : LawfulMonad (LogFree τ σ) :=
  LawfulMonad.mk' (LogFree τ σ) (fun _ => Subtype.ext rfl) (fun _ _ => Subtype.ext rfl)
    (fun _ _ _ => Subtype.ext rfl)

instance : MonadLift (LogFree τ σ) (Recording τ (WorldM σ)) where
  monadLift x := x.1

instance : LawfulMonadLift (LogFree τ σ) (Recording τ (WorldM σ)) where
  monadLift_pure _ := rfl
  monadLift_bind _ _ := rfl

instance : Journal (LogFree τ σ) where
  record e := ⟨Journal.record e, fun _ _ _ h => ⟨rfl, h⟩⟩
  within span x := ⟨Journal.within span x.1, fun l w w' h =>
    x.2 l { w with span := some span } { w' with span := some span } h⟩

instance : LiftsJournal (LogFree τ σ) (Recording τ (WorldM σ)) where
  lift_record _ := rfl
  lift_within _ _ := rfl

end LogFree

/-- The host whose commands do what the given function says in each state. -/
def Host.ofSteps (f : Command → σ → Except SpawnError Completion × σ) : Host (WorldM σ) where
  perform c := WorldM.step (f c)

/-- The same host, whose commands do not look at the log. -/
def Host.logFree (f : Command → σ → Except SpawnError Completion × σ) :
    Host (LogFree Turn σ) where
  perform c := ⟨(Host.ofSteps f).recorded.perform c, fun l w w' h => by
    have hw : (f c w.state) = f c w'.state := congrArg (f c) h
    change (((f c w.state).1, l ++ [Turn.performed c (f c w.state).1]) =
      ((f c w'.state).1, l ++ [Turn.performed c (f c w'.state).1])) ∧
        (f c w.state).2 = (f c w'.state).2
    rw [hw]
    exact ⟨rfl, rfl⟩⟩

theorem Host.lift_logFree (f : Command → σ → Except SpawnError Completion × σ) :
    (Host.logFree f).lift = (Host.ofSteps f).recorded := rfl

namespace Gate

variable {f : Command → σ → Except SpawnError Completion × σ} {settings : Settings}
  {gate : Gate (Recording Turn (WorldM σ))}

theorem exists_logFree (hg : ofSettings (Host.ofSteps f).recorded settings = .ok gate) :
    ∃ g : Gate (LogFree Turn σ), gate = g.lift := by
  obtain ⟨p, hp⟩ : ∃ p, Policy.ofSettings settings.policy = .ok p := by
    unfold ofSettings at hg
    cases hp : Policy.ofSettings settings.policy with
    | error e =>
      rw [hp] at hg
      cases hg
    | ok p => exact ⟨p, rfl⟩
  rw [← Host.lift_logFree, ofSettings_lift (ofSettings_eq (Host.logFree f) hp)] at hg
  exact ⟨_, (Except.ok.inj hg).symm⟩

theorem ignoresLog_process (hg : ofSettings (Host.ofSteps f).recorded settings = .ok gate)
    (file : String) : IgnoresLog (gate.process file) := by
  obtain ⟨g, rfl⟩ := exists_logFree hg
  rw [process_lift]
  exact (g.process file).2

theorem ignoresLog_assess (hg : ofSettings (Host.ofSteps f).recorded settings = .ok gate)
    (file : String) : IgnoresLog (gate.assess file) := by
  obtain ⟨g, rfl⟩ := exists_logFree hg
  rw [assess_lift]
  exact (g.assess file).2

theorem run_eq_process (hg : ofSettings (Host.ofSteps f).recorded settings = .ok gate) (e : Errand)
    (l : List Turn) {w w' : World σ} (h : w.state = w'.state) :
    (gate.run e l w).1 = (gate.process e.file l w').1 :=
  (ignoresLog_process hg e.file l { w with span := some e.span } w' h).1

theorem evaluate_eq_assess (hg : ofSettings (Host.ofSteps f).recorded settings = .ok gate)
    (e : Errand) (l : List Turn) {w w' : World σ} (h : w.state = w'.state) :
    (gate.evaluate e l w).1 = (gate.assess e.file l w').1 :=
  (ignoresLog_assess hg e.file l { w with span := some e.span } w' h).1

end Gate
end QualityGate
