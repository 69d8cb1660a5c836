import QualityGate.Text.Blank
import Mathlib.Data.List.Infix
import Mathlib.Data.List.TakeWhile

namespace QualityGate.Text.Blank

theorem trimEnd_isPrefix (cs : List Char) : trimEnd cs <+: cs := by
  have h : trimStart cs.reverse <:+ cs.reverse := List.dropWhile_suffix _
  rw [trimEnd, ← List.reverse_suffix, List.reverse_reverse]
  exact h

theorem trim_infix (cs : List Char) : trim cs <:+: cs := by
  have hs : trimStart cs <:+ cs := List.dropWhile_suffix _
  exact (trimEnd_isPrefix (trimStart cs)).isInfix.trans hs.isInfix

theorem not_blank_of_getLast?_trim {cs : List Char} {c : Char}
    (h : (trim cs).getLast? = some c) : isBlank c = false := by
  have hd := List.head?_dropWhile_not isBlank (trimStart cs).reverse
  rw [trim, trimEnd, List.getLast?_reverse, trimStart] at h
  rw [h] at hd
  exact hd

theorem not_blank_of_head?_trim {cs : List Char} {c : Char} (h : (trim cs).head? = some c) :
    isBlank c = false := by
  have hd := List.head?_dropWhile_not isBlank cs
  obtain ⟨t, ht⟩ := trimEnd_isPrefix (trimStart cs)
  rw [trim] at h
  rw [← trimStart, ← ht, List.head?_append, h] at hd
  exact hd

theorem trimStart_append {before : List Char} (h : ∀ c ∈ before, isBlank c = true)
    (cs : List Char) : trimStart (before ++ cs) = trimStart cs :=
  List.dropWhile_append_of_pos h

theorem trimEnd_append {after : List Char} (h : ∀ c ∈ after, isBlank c = true)
    (cs : List Char) : trimEnd (cs ++ after) = trimEnd cs := by
  have hr : ∀ c ∈ after.reverse, isBlank c = true := fun c hc => h c (List.mem_reverse.mp hc)
  rw [trimEnd, trimEnd, List.reverse_append, trimStart_append hr]

theorem trim_pad {before after : List Char} (hb : ∀ c ∈ before, isBlank c = true)
    (ha : ∀ c ∈ after, isBlank c = true) (cs : List Char) :
    trim (before ++ cs ++ after) = trim cs := by
  have hn : after.dropWhile isBlank = [] := List.dropWhile_eq_nil_iff.mpr ha
  have hs : trimStart (before ++ cs ++ after) =
      if (trimStart cs).isEmpty then [] else trimStart cs ++ after := by
    rw [List.append_assoc, trimStart_append hb, trimStart, List.dropWhile_append, hn]
    rfl
  rw [trim, trim, hs]
  split
  · next he => rw [List.isEmpty_iff.mp he]
  · exact trimEnd_append ha _

theorem trimStart_of_head {cs : List Char} (h : ∀ c ∈ cs.head?, isBlank c = false) :
    trimStart cs = cs := by
  cases cs with
  | nil => rfl
  | cons c cs =>
    have hc : isBlank c = false := h c rfl
    exact List.dropWhile_cons_of_neg (by simp [hc])

theorem trim_of_ends {cs : List Char} (hh : ∀ c ∈ cs.head?, isBlank c = false)
    (hl : ∀ c ∈ cs.getLast?, isBlank c = false) : trim cs = cs := by
  have he : trimStart cs.reverse = cs.reverse :=
    trimStart_of_head (by rwa [List.head?_reverse])
  rw [trim, trimStart_of_head hh, trimEnd, he, List.reverse_reverse]

/-- The second text is the first one without the blanks at its ends. -/
structure Stripped (cs core : List Char) : Prop where
  blanks : ∃ before after, cs = before ++ core ++ after ∧ ∀ c ∈ before ++ after, isBlank c = true
  head : ∀ c ∈ core.head?, isBlank c = false
  last : ∀ c ∈ core.getLast?, isBlank c = false

theorem exists_trimStart (cs : List Char) :
    ∃ before, cs = before ++ trimStart cs ∧ ∀ c ∈ before, isBlank c = true :=
  ⟨cs.takeWhile isBlank, List.takeWhile_append_dropWhile.symm, fun _ => List.mem_takeWhile_imp⟩

theorem stripped_trim (cs : List Char) : Stripped cs (trim cs) where
  blanks := by
    obtain ⟨before, hs, hb⟩ := exists_trimStart cs
    obtain ⟨after, ht, ha⟩ := exists_trimStart (trimStart cs).reverse
    have he : trimStart cs = trim cs ++ after.reverse := by
      rw [trim, trimEnd, ← List.reverse_append, ← ht, List.reverse_reverse]
    refine ⟨before, after.reverse, by rw [List.append_assoc, ← he, ← hs], fun c hc => ?_⟩
    obtain hc | hc := List.mem_append.mp hc
    · exact hb c hc
    · exact ha c (List.mem_reverse.mp hc)
  head := fun _ hc => not_blank_of_head?_trim hc
  last := fun _ hc => not_blank_of_getLast?_trim hc

theorem stripped_iff {cs core : List Char} : Stripped cs core ↔ trim cs = core := by
  refine ⟨fun h => ?_, fun h => h ▸ stripped_trim cs⟩
  obtain ⟨before, after, rfl, hb⟩ := h.blanks
  rw [trim_pad (fun c hc => hb c (List.mem_append_left _ hc))
    (fun c hc => hb c (List.mem_append_right _ hc)), trim_of_ends h.head h.last]

theorem isBlankText_iff (s : String) : isBlankText s = true ↔ Stripped s.toList [] := by
  rw [isBlankText, List.all_eq_true]
  constructor
  · intro h
    exact ⟨⟨s.toList, [], by simp, by simpa using h⟩, by simp, by simp⟩
  · intro h
    obtain ⟨before, after, he, hb⟩ := h.blanks
    rw [he]
    simpa using hb

end QualityGate.Text.Blank
