import QualityGate.Findings.Errors
import QualityGate.Proofs.Text.Lines

namespace QualityGate

open Text

theorem Text.Blank.isBlankText_of_mem {s : String} {c : Char} (hc : c ∈ s.toList)
    (hb : Blank.isBlank c = false) : Blank.isBlankText s = false := by
  rw [Blank.isBlankText, List.all_eq_false]
  exact ⟨c, hc, by simp [hb]⟩

namespace Findings

theorem not_blank_of_error? {tool : Tool} {line : List Char} {e : String}
    (h : error? tool line = some e) : Blank.isBlankText e = false := by
  cases tool with
  | prettier =>
    obtain ⟨s, -, rfl⟩ := Option.map_eq_some_iff.mp h
    exact Blank.isBlankText_of_mem (c := 'F') (by simp) (by decide)
  | eslint =>
    obtain ⟨f, -, rfl⟩ := Option.map_eq_some_iff.mp h
    exact Blank.isBlankText_of_mem (c := ':') (by simp [Eslint.Finding.chars]) (by decide)
  | typescript =>
    obtain ⟨hp, rfl⟩ := (Typescript.error?_eq_some_iff line e).mp h
    have hm : 'T' ∈ line := ((Lines.hasPart_iff _ _).mp hp).subset (by decide)
    exact Blank.isBlankText_of_mem (c := 'T') (by simpa using hm) (by decide)

theorem not_blank_of_mem_errors {tool : Tool} {stdout stderr : String} {e : String}
    (h : e ∈ errors tool stdout stderr) : Blank.isBlankText e = false := by
  obtain ⟨line, -, he⟩ := List.mem_filterMap.mp h
  exact not_blank_of_error? he

end Findings
end QualityGate
