import QualityGate.Settings.Load
import QualityGate.Workplace

namespace QualityGate

open Log

/-- The log file of the settings cannot be opened, or the directives that a log is filtered by are
torn apart. -/
def Workplace.Unloggable (w : Workplace) (l : LoggingSettings) : Prop :=
  (∃ e, (w.openLog l).1 = .error e) ∨
    Filter.isTorn w.directives = true ∧ (l.logDir.isSome = true ∨ l.enableStderr = true)

namespace Workplace

theorem unloggable_iff_of_lookup_eq_none {w : Workplace}
    (h : w.environment.lookup filterVariable = none) (l : LoggingSettings) :
    w.Unloggable l ↔ ∃ e, (w.openLog l).1 = .error e := by
  have ht : Filter.isTorn w.directives = false := by
    rw [directives, h]
    unfold Filter.isTorn Filter.flaws Filter.items String.splitOn String.splitOnAux
    decide
  simp [Unloggable, ht]

theorem openLog_eq_ok {w w' : Workplace} {l : LoggingSettings} {file : Option Place}
    (h : w.openLog l = (.ok file, w')) :
    file.isSome = l.logDir.isSome ∧ w'.directives = w.directives := by
  unfold openLog at h
  cases hd : l.logDir with
  | none =>
    rw [hd] at h
    cases h
    exact ⟨rfl, rfl⟩
  | some directory =>
    rw [hd] at h
    dsimp only at h
    cases hr : (openFile w.tree w.cwd directory (fileNameAt l.rotation w.now)).1 with
    | error e =>
      rw [hr] at h
      cases h
    | ok p =>
      rw [hr] at h
      cases h
      exact ⟨rfl, rfl⟩

theorem unloggable_iff_of_openLog {w w' : Workplace} {l : LoggingSettings} {file : Option Place}
    (h : w.openLog l = (.ok file, w')) :
    w.Unloggable l ↔
      (Filter.isTorn w'.directives && (file.isSome || l.enableStderr)) = true := by
  obtain ⟨hf, hd⟩ := openLog_eq_ok h
  simp [Unloggable, h, hf, hd]

/-- The start of a logger with a level breaks down exactly at an unloggable workplace. -/
theorem startLogger_cases (w : Workplace) {l : LoggingSettings}
    (hl : (levelOf? l.level).isSome = true) :
    (w.Unloggable l ∧ ∃ b w', startLogger l w = (.error b, w')) ∨
      (¬ w.Unloggable l ∧ ∃ r w', startLogger l w = (.ok r, w')) := by
  obtain ⟨level, hlevel⟩ := Option.isSome_iff_exists.mp hl
  unfold startLogger
  simp only [hlevel]
  obtain ⟨⟨r, w'⟩, ho⟩ : ∃ x, w.openLog l = x := ⟨_, rfl⟩
  rw [ho]
  cases r with
  | error e => exact .inl ⟨.inl ⟨e, congrArg Prod.fst ho⟩, _, _, rfl⟩
  | ok file =>
    rw [unloggable_iff_of_openLog ho]
    dsimp only
    split
    · next ht => exact .inl ⟨ht, _, _, rfl⟩
    · next ht =>
      refine .inr ⟨ht, ?_⟩
      cases w'.logger with
      | some _ => exact ⟨_, _, rfl⟩
      | none => exact ⟨_, _, rfl⟩

end Workplace

end QualityGate
