import QualityGate.Log.Logger
import QualityGate.Settings.Load

namespace QualityGate

theorem Policy.exists_ofSettings {s : PolicySettings} (h : s.inBoth = []) :
    ∃ p, Policy.ofSettings s = .ok p := by
  have hd : ∀ r ∈ s.lintFixableRules, r ∉ s.lintUnfixableRules := by
    simpa [PolicySettings.inBoth] using h
  exact ⟨_, dif_pos hd⟩

namespace Settings

theorem of_bind_ok {ε α β : Type} {x : Except ε α} {f : α → Except ε β} {b : β}
    (h : x >>= f = .ok b) : ∃ a, x = .ok a ∧ f a = .ok b := by
  cases x with
  | error e => cases h
  | ok a => exact ⟨a, rfl, h⟩

theorem of_require {holds : Bool} {flaw : SettingsFlaw} {u : Unit}
    (h : require holds flaw = .ok u) : holds = true := by
  unfold require at h
  split at h
  · assumption
  · cases h

theorem isSome_levelOf?_of_validate {s : Settings} (h : s.validate = .ok ()) :
    (Log.levelOf? s.logging.level).isSome = true := by
  have hk : ∀ name ∈ logLevels, (Log.levelOf? name).isSome = true := by decide
  obtain ⟨_, hl, -⟩ := of_bind_ok h
  exact hk _ (by simpa using of_require hl)

theorem mapError_eq_ok_iff {ε ε' α : Type} {x : Except ε α} {f : ε → ε'} {a : α} :
    x.mapError f = .ok a ↔ x = .ok a := by
  cases x with
  | error e => exact iff_of_false (by rintro ⟨⟩) (by rintro ⟨⟩)
  | ok b => exact ⟨fun h => congrArg _ (Except.ok.inj h), fun h => congrArg _ (Except.ok.inj h)⟩

theorem load_eq_ok_iff {tree : FileTree} {cwd : Place} {environment : List (String × String)}
    {file : Option String} {s : Settings} : load tree cwd environment file = .ok s ↔
      ∃ all, layers? ((files file).map (fileLayer? tree cwd)) (Environment.layer environment) =
        some all ∧ form.decode all = .ok s ∧ s.validate = .ok () := by
  rw [load]
  cases layers? ((files file).map (fileLayer? tree cwd)) (Environment.layer environment) with
  | none => simp
  | some all =>
    constructor
    · intro h
      obtain ⟨settings, hd, h⟩ := of_bind_ok h
      obtain ⟨_, hv, h⟩ := of_bind_ok h
      obtain rfl := Except.ok.inj h
      exact ⟨all, rfl, mapError_eq_ok_iff.mp hd, mapError_eq_ok_iff.mp hv⟩
    · rintro ⟨_, ⟨rfl⟩, hd, hv⟩
      have hs : ofSetting (loadContext file) all = .ok s := mapError_eq_ok_iff.mpr hd
      have hc : s.validate.mapError LoadError.invalid = .ok () := mapError_eq_ok_iff.mpr hv
      dsimp only
      rw [hs]
      change (s.validate.mapError LoadError.invalid >>= fun _ => pure s) = .ok s
      rw [hc]
      rfl

theorem validate_of_load {tree : FileTree} {cwd : Place} {environment : List (String × String)}
    {file : Option String} {s : Settings} (h : load tree cwd environment file = .ok s) :
    s.validate = .ok () := by
  obtain ⟨_, -, -, hv⟩ := load_eq_ok_iff.mp h
  exact hv

theorem load_eq_default {tree : FileTree} {cwd : Place}
    (h : ∀ path ∈ files none, findFile? tree cwd path = none) :
    load tree cwd [] none = .ok default := by
  have hl : (files none).map (fileLayer? tree cwd) =
      (files none).map fun path => some (.nothing (.file path)) :=
    List.map_congr_left fun path hp => by simp only [fileLayer?, h path hp]
  unfold load
  rw [hl]
  rfl

theorem inBoth_of_validate {s : Settings} (h : s.validate = .ok ()) : s.policy.inBoth = [] := by
  obtain ⟨_, _, h⟩ := of_bind_ok h
  obtain ⟨_, _, h⟩ := of_bind_ok h
  obtain ⟨_, _, h⟩ := of_bind_ok h
  obtain ⟨_, _, h⟩ := of_bind_ok h
  obtain ⟨_, _, h⟩ := of_bind_ok h
  obtain ⟨_, _, h⟩ := of_bind_ok h
  split at h
  · next hn => exact List.head?_eq_none_iff.mp hn
  · cases h

theorem exists_policy {s : Settings} (h : s.validate = .ok ()) :
    ∃ p, Policy.ofSettings s.policy = .ok p :=
  Policy.exists_ofSettings (inBoth_of_validate h)

end Settings
end QualityGate
