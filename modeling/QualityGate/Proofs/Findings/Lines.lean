import QualityGate.Findings.Lines
import QualityGate.Proofs.Text.Blank
import QualityGate.Proofs.Text.Lines

namespace QualityGate.Findings

open Text

theorem trim_dropReturn (cs : List Char) :
    Blank.trim (Lines.dropReturn cs) = Blank.trim cs := by
  rcases Lines.dropReturn_cases cs with h | h
  · rw [h]
  · have hr : ∀ c ∈ ['\r'], Blank.isBlank c = true := List.forall_mem_singleton.mpr (by decide)
    have ht := Blank.trim_pad (List.forall_mem_nil _) hr (Lines.dropReturn cs)
    rw [List.nil_append, ← h] at ht
    exact ht.symm

/-- The lines of a text, each without the blanks at its ends. -/
inductive StrippedLines : List Char → List (List Char) → Prop
  | nil : StrippedLines [] []
  | last {cs core : List Char} (hn : cs ≠ []) (hl : '\n' ∉ cs) (hs : Blank.Stripped cs core) :
      StrippedLines cs [core]
  | feed {cs core rest : List Char} {lines : List (List Char)} (hl : '\n' ∉ cs)
      (hs : Blank.Stripped cs core) (h : StrippedLines rest lines) :
      StrippedLines (cs ++ '\n' :: rest) (core :: lines)

theorem StrippedLines.eq {cs : List Char} {lines : List (List Char)}
    (h : StrippedLines cs lines) : lines = (Lines.lines cs).map Blank.trim := by
  induction h with
  | nil => rfl
  | last hn hl hs =>
    rw [Lines.lines_of_not_mem hl hn, ← Blank.stripped_iff.mp hs]
    rfl
  | feed hl hs _ ih =>
    rw [Lines.lines_append_feed hl, List.map_cons, trim_dropReturn, Blank.stripped_iff.mp hs, ih]

theorem exists_strippedLines (cs : List Char) : ∃ lines, StrippedLines cs lines := by
  induction hn : cs.length using Nat.strong_induction_on generalizing cs with
  | _ n ih =>
    subst hn
    have hs := Blank.stripped_trim
    by_cases hm : '\n' ∈ cs
    · obtain ⟨a, b, rfl, ha⟩ := List.eq_append_cons_of_mem hm
      obtain ⟨lines, hb⟩ := ih b.length (by simp; omega) b rfl
      exact ⟨_, .feed ha (hs a) hb⟩
    · by_cases hc : cs = []
      · exact ⟨[], hc ▸ .nil⟩
      · exact ⟨_, .last hc hm (hs cs)⟩

theorem strippedLines_iff {s : String} {lines : List (List Char)} :
    StrippedLines s.toList lines ↔ lines = trimmedLines s := by
  refine ⟨StrippedLines.eq, ?_⟩
  rintro rfl
  obtain ⟨lines, h⟩ := exists_strippedLines s.toList
  rwa [trimmedLines, ← h.eq]

theorem outputLines_single {cs : List Char} (h : '\n' ∉ cs) (hn : cs ≠ [])
    (hh : ∀ c ∈ cs.head?, Blank.isBlank c = false)
    (hl : ∀ c ∈ cs.getLast?, Blank.isBlank c = false) :
    outputLines (String.ofList cs) "" = [cs] := by
  rw [outputLines, trimmedLines, String.toList_ofList, Lines.lines_of_not_mem h hn]
  simp only [List.map_cons, List.map_nil, Blank.trim_of_ends hh hl]
  rfl

end QualityGate.Findings
