import QualityGate.Proofs.Payload.Screening
import QualityGate.Proofs.Settings.Validation

namespace QualityGate

open QualityGate.Path

theorem HookSettings.handlesFile_eq_true_iff (hook : HookSettings) (file : String) :
    hook.handlesFile file = true ↔ ∃ ext ∈ hook.extensions, extension? file = some ext := by
  unfold handlesFile
  split
  · next ext he => simp [he]
  · next he => simp [he]

namespace Settings

theorem head?_ne_of_validate {s : Settings} (h : s.validate = .ok ()) {ext : String}
    (he : ext ∈ s.hook.extensions) : ext.toList.head? ≠ some '.' := by
  obtain ⟨_, _, h⟩ := of_bind_ok h
  obtain ⟨_, _, h⟩ := of_bind_ok h
  obtain ⟨_, _, h⟩ := of_bind_ok h
  obtain ⟨_, _, h⟩ := of_bind_ok h
  obtain ⟨_, hr, -⟩ := of_bind_ok h
  have hall := List.all_eq_true.mp (of_require hr) ext he
  simpa using hall

/-- Of the entries that validation lets pass, those are of use that have neither a slash nor a dot
further in. -/
theorem canExtend_iff_of_validate {s : Settings} (h : s.validate = .ok ()) {ext : String}
    (he : ext ∈ s.hook.extensions) :
    CanExtend ext ↔ '.' ∉ ext.toList.tail ∧ '/' ∉ ext.toList := by
  have hd := head?_ne_of_validate h he
  have hm : '.' ∈ ext.toList ↔ '.' ∈ ext.toList.tail := by
    cases hl : ext.toList with
    | nil => simp
    | cons c cs =>
      have hc : '.' ≠ c := by
        rintro rfl
        exact hd (by rw [hl]; rfl)
      simp [hc]
  rw [← hm]
  exact ⟨fun h => ⟨h.no_dot, h.no_slash⟩, fun h => ⟨h.1, h.2⟩⟩

theorem screen_eq_accept_iff_handlesFile {s : Settings} {p : Payload} {operation file : String}
    (hn : p.toolName = some operation) (ho : operation ∈ s.hook.operations)
    (hf : p.toolInput.bind ToolInput.filePath = some file) (hne : file ≠ "") :
    p.screen s.hook = .accept operation file ↔
      operation ≠ "" ∧ s.hook.handlesFile file = true := by
  rw [Payload.screen_eq_accept_iff, HookSettings.handlesFile_iff]
  constructor
  · rintro ⟨hn, -, -, hc⟩
    exact ⟨hn.not_empty, hc⟩
  · rintro ⟨he, hc⟩
    exact ⟨⟨hn, he⟩, ho, ⟨Option.bind_eq_some_iff.mp hf, hne⟩, hc⟩

/-- A file whose name ends in a listed extension is handled if that entry has no dot and no slash
in it, and otherwise only on account of another entry; payloads that name the file are taken up
accordingly. An entry with a dot or a slash in it is the extension of no file. -/
theorem extension_live_iff {s : Settings} (hv : s.validate = .ok ()) {ext : String}
    (he : ext ∈ s.hook.extensions) :
    (s.hook.handlesFile ("a." ++ ext) = true ↔
      ('.' ∉ ext.toList.tail ∧ '/' ∉ ext.toList) ∨
        ∃ other ∈ s.hook.extensions, other ≠ ext ∧ extension? ("a." ++ ext) = some other) ∧
      (∀ (p : Payload) (operation : String), p.toolName = some operation →
        operation ∈ s.hook.operations →
        p.toolInput.bind ToolInput.filePath = some ("a." ++ ext) →
        (p.screen s.hook = .accept operation ("a." ++ ext) ↔
          operation ≠ "" ∧ s.hook.handlesFile ("a." ++ ext) = true)) ∧
      ('.' ∈ ext.toList.tail ∨ '/' ∈ ext.toList → ∀ file, extension? file ≠ some ext) := by
  have hc := canExtend_iff_of_validate hv he
  refine ⟨?_, ?_, ?_⟩
  · rw [HookSettings.handlesFile_eq_true_iff, ← hc]
    constructor
    · rintro ⟨other, ho, hx⟩
      by_cases hne : other = ext
      · subst hne
        exact .inl (canExtend_of_extension? hx)
      · exact .inr ⟨other, ho, hne, hx⟩
    · rintro (hx | ⟨other, ho, -, hx⟩)
      · exact ⟨ext, he, hx.extension?_append⟩
      · exact ⟨other, ho, hx⟩
  · intro p operation hn ho hf
    have hne : "a." ++ ext ≠ "" := by simp
    exact screen_eq_accept_iff_handlesFile hn ho hf hne
  · intro hd file hx
    obtain ⟨hdot, hslash⟩ := hc.mp (canExtend_of_extension? hx)
    exact hd.elim hdot hslash

def declarations : Settings :=
  { (default : Settings) with hook := { HookSettings.default with extensions := ["d.ts", "mts"] } }

theorem extension_live_iff_declarations :
    declarations.validate = .ok () ∧
      declarations.hook.handlesFile "a.mts" = true ∧
      (⟨some "Edit", some ⟨some "a.mts", none, none, none, none⟩⟩ : Payload).screen
        declarations.hook = .accept "Edit" "a.mts" ∧
      ∀ file, extension? file ≠ some "d.ts" := by
  have hv : declarations.validate = .ok () := by decide
  have hm := extension_live_iff hv (show "mts" ∈ declarations.hook.extensions by decide)
  have hd := extension_live_iff hv (show "d.ts" ∈ declarations.hook.extensions by decide)
  have hh := hm.1.mpr (.inl (by decide))
  exact ⟨hv, hh, (hm.2.1 _ _ rfl (by decide) rfl).mpr ⟨by decide, hh⟩, hd.2.2 (.inl (by decide))⟩

theorem not_all_live : ¬ ∀ s : Settings, s.validate = .ok () → ∀ ext ∈ s.hook.extensions,
    s.hook.handlesFile ("a." ++ ext) = true := by
  intro h
  have hd := h declarations (by decide) "d.ts" (by decide)
  exact absurd hd (by decide)

end Settings
end QualityGate
