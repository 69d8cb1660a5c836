import QualityGate.Payload.Screening
import QualityGate.Proofs.Path

namespace QualityGate

open QualityGate.Path

def HookSettings.Covers (hook : HookSettings) (file : String) : Prop :=
  ∃ name ext, EndsIn file name ∧ Extends name ext ∧ ext ∈ hook.extensions

theorem HookSettings.handlesOperation_iff (hook : HookSettings) (operation : String) :
    hook.handlesOperation operation = true ↔ operation ∈ hook.operations := by
  simp [handlesOperation]

theorem HookSettings.handlesFile_iff (hook : HookSettings) (file : String) :
    hook.handlesFile file = true ↔ hook.Covers file := by
  unfold handlesFile
  constructor
  · intro h
    split at h
    · next ext he =>
      obtain ⟨name, hn, hx⟩ := (extension?_eq_some_iff ..).mp he
      exact ⟨name, ext, hn, hx, by simpa using h⟩
    · cases h
  · rintro ⟨name, ext, hn, hx, hm⟩
    rw [(extension?_eq_some_iff ..).mpr ⟨name, hn, hx⟩]
    simpa using hm

namespace Payload

/-- The payload names the operation. -/
structure Names (p : Payload) (operation : String) : Prop where
  tool_name : p.toolName = some operation
  not_empty : operation ≠ ""

/-- The payload names the file. -/
structure Locates (p : Payload) (file : String) : Prop where
  file_path : ∃ input, p.toolInput = some input ∧ input.filePath = some file
  not_empty : file ≠ ""

theorem operation?_eq_some_iff (p : Payload) (operation : String) :
    p.operation? = some operation ↔ p.Names operation := by
  rw [operation?, Option.filter_eq_some_iff]
  simp only [bne_iff_ne]
  exact ⟨fun ⟨h, hn⟩ => ⟨h, hn⟩, fun ⟨h, hn⟩ => ⟨h, hn⟩⟩

theorem filePath?_eq_some_iff (p : Payload) (file : String) :
    p.filePath? = some file ↔ p.Locates file := by
  rw [filePath?, Option.filter_eq_some_iff, Option.bind_eq_some_iff]
  simp only [bne_iff_ne]
  exact ⟨fun ⟨h, hn⟩ => ⟨h, hn⟩, fun ⟨h, hn⟩ => ⟨h, hn⟩⟩

theorem Names.unique {p : Payload} {o o' : String} (h : p.Names o) (h' : p.Names o') : o = o' :=
  Option.some.inj (h.tool_name.symm.trans h'.tool_name)

theorem Locates.unique {p : Payload} {f f' : String} (h : p.Locates f) (h' : p.Locates f') :
    f = f' := by
  rw [← filePath?_eq_some_iff] at h h'
  exact Option.some.inj (h.symm.trans h')

theorem Locates.fileName?_eq {p : Payload} {file name : String} (h : p.Locates file)
    (hn : EndsIn file name) : p.fileName? = some name := by
  rw [fileName?, (filePath?_eq_some_iff ..).mpr h, Option.map_some,
    (fileName?_eq_some_iff ..).mpr hn, Option.getD_some]

/-- The payload asks for a check: its operation and its file are named, and both are among those
that the settings are for. -/
structure Admitted (hook : HookSettings) (p : Payload) (operation file : String) : Prop where
  names : p.Names operation
  supported : operation ∈ hook.operations
  locates : p.Locates file
  covered : hook.Covers file

/-- What a payload comes to: something is missing, or else its operation is not supported, or else
its file is not, or else it is admitted. -/
inductive Judged (hook : HookSettings) (p : Payload) : Verdict → Prop
  | missing (h : (∀ operation, ¬ p.Names operation) ∨ ∀ file, ¬ p.Locates file) :
      Judged hook p .missingFields
  | operation {operation file : String} (hn : p.Names operation) (hl : p.Locates file)
      (hs : operation ∉ hook.operations) : Judged hook p (.unsupportedOperation operation)
  | file {operation file : String} (hn : p.Names operation) (hl : p.Locates file)
      (hs : operation ∈ hook.operations) (hc : ¬ hook.Covers file) :
      Judged hook p (.unsupportedFile file)
  | admitted {operation file : String} (h : p.Admitted hook operation file) :
      Judged hook p (.accept operation file)

variable {hook : HookSettings} {p : Payload} {verdict : Verdict}

theorem Judged.screen_eq (h : p.Judged hook verdict) : p.screen hook = verdict := by
  cases h with
  | missing h =>
    simp only [← operation?_eq_some_iff, ← filePath?_eq_some_iff,
      ← Option.eq_none_iff_forall_ne_some] at h
    rw [screen]
    split
    · next ho hf => simp [ho, hf] at h
    · rfl
  | operation hn hl hs =>
    simp [screen, (operation?_eq_some_iff ..).mpr hn, (filePath?_eq_some_iff ..).mpr hl,
      mt (hook.handlesOperation_iff _).mp hs]
  | file hn hl hs hc =>
    simp [screen, (operation?_eq_some_iff ..).mpr hn, (filePath?_eq_some_iff ..).mpr hl,
      (hook.handlesOperation_iff _).mpr hs, mt (hook.handlesFile_iff _).mp hc]
  | admitted h =>
    simp [screen, (operation?_eq_some_iff ..).mpr h.names,
      (filePath?_eq_some_iff ..).mpr h.locates, (hook.handlesOperation_iff _).mpr h.supported,
      (hook.handlesFile_iff _).mpr h.covered]

theorem exists_judged (hook : HookSettings) (p : Payload) : ∃ verdict, p.Judged hook verdict := by
  by_cases h : (∀ operation, ¬ p.Names operation) ∨ ∀ file, ¬ p.Locates file
  · exact ⟨_, .missing h⟩
  · obtain ⟨⟨operation, hn⟩, file, hl⟩ :
        (∃ operation, p.Names operation) ∧ ∃ file, p.Locates file := by
      simpa using h
    by_cases hs : operation ∈ hook.operations
    · by_cases hc : hook.Covers file
      · exact ⟨_, .admitted ⟨hn, hs, hl, hc⟩⟩
      · exact ⟨_, .file hn hl hs hc⟩
    · exact ⟨_, .operation hn hl hs⟩

theorem screen_eq_iff (hook : HookSettings) (p : Payload) (verdict : Verdict) :
    p.screen hook = verdict ↔ p.Judged hook verdict := by
  refine ⟨?_, Judged.screen_eq⟩
  rintro rfl
  obtain ⟨verdict, h⟩ := p.exists_judged hook
  rwa [h.screen_eq]

theorem screen_eq_accept_iff (hook : HookSettings) (p : Payload) (operation file : String) :
    p.screen hook = .accept operation file ↔ p.Admitted hook operation file := by
  rw [screen_eq_iff]
  refine ⟨fun h => ?_, .admitted⟩
  cases h with
  | admitted h => exact h

end Payload
end QualityGate
