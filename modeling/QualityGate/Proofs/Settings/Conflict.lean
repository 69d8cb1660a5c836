import QualityGate.Proofs.Diagnostic.Conflict
import QualityGate.Proofs.Gate.Delegation

namespace QualityGate.Settings

open Policy

theorem bind_require_eq_error {holds : Bool} {flaw flaw' : SettingsFlaw}
    {f : Unit → Except SettingsFlaw Unit} (h : require holds flaw >>= f = .error flaw')
    (hn : flaw ≠ flaw') : f () = .error flaw' := by
  cases holds with
  | true => exact h
  | false => exact absurd (Except.error.inj h) hn

theorem bind_forM_require_eq_error {tools : List Tool} {holds : Tool → Bool}
    {flaw : Tool → SettingsFlaw} {flaw' : SettingsFlaw} {f : PUnit → Except SettingsFlaw Unit}
    (h : (tools.forM fun t => require (holds t) (flaw t)) >>= f = .error flaw')
    (hn : ∀ t, flaw t ≠ flaw') : f () = .error flaw' := by
  induction tools with
  | nil => exact h
  | cons t ts ih =>
    have hc : ((t :: ts).forM fun t => require (holds t) (flaw t)) =
        require (holds t) (flaw t) >>= fun _ => ts.forM fun t => require (holds t) (flaw t) := rfl
    rw [hc, bind_assoc] at h
    exact ih (bind_require_eq_error h (hn t))

theorem head?_inBoth_of_validate {s : Settings} {rule : String}
    (h : s.validate = .error (.conflictingRule rule)) : s.policy.inBoth.head? = some rule := by
  unfold validate at h
  replace h := bind_require_eq_error h nofun
  replace h := bind_require_eq_error h nofun
  replace h := bind_require_eq_error h nofun
  replace h := bind_require_eq_error h nofun
  replace h := bind_require_eq_error h nofun
  replace h := bind_forM_require_eq_error h nofun
  split at h
  · cases h
  · next hr =>
    cases h
    exact hr

example : validate { (default : Settings) with policy := ⟨true, ["a", "c", "b"], ["b", "c"]⟩ } =
    .error (.conflictingRule "c") := by rfl

variable {m : Type → Type} [Monad m] [Log.Journal m]

theorem exists_gate (host : Host m) {s : Settings} (h : s.validate = .ok ()) :
    ∃ g, Gate.ofSettings host s = .ok g := by
  obtain ⟨p, hp⟩ := exists_policy h
  exact ⟨_, Gate.ofSettings_eq host hp⟩

/-- Validation tells the first contested rule, and only for settings whose policy is refused; after
a validation without flaw there is a policy, and a gate. A policy is refused with all contested
rules and says of each rule what is listed, so that settings that list the same rules come to the
same. -/
theorem policy_checks_agree (host : Host m) (s : Settings) (p q : PolicySettings) :
    (∀ rule, s.validate = .error (.conflictingRule rule) → s.policy.FirstContested rule ∧
      ∃ names, Policy.ofSettings s.policy = .error (.invalidPolicy names)) ∧
    (s.validate = .ok () → (∃ policy, Policy.ofSettings s.policy = .ok policy) ∧
      ∃ g, Gate.ofSettings host s = .ok g) ∧
    Settled p (Policy.ofSettings p) ∧
    (p.Alike q → Agree (Policy.ofSettings p) (Policy.ofSettings q)) := by
  refine ⟨fun rule h => ?_, fun h => ⟨exists_policy h, exists_gate host h⟩,
    settled_ofSettings p, fun hpq => ?_⟩
  · have hf := PolicySettings.head?_inBoth (head?_inBoth_of_validate h)
    exact ⟨hf, _, ofSettings_of_contested hf.contested⟩
  · exact (settled_ofSettings p).agree (settled_ofSettings q) hpq

end QualityGate.Settings
