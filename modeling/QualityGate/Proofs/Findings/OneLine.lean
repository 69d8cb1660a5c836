import QualityGate.Proofs.Findings.Eslint
import QualityGate.Proofs.Text.Blank
import QualityGate.Proofs.Text.Lines

namespace QualityGate.Findings

open Text

theorem strip?_subset {start cs rest : List Char} (h : strip? start cs = some rest) :
    rest ⊆ cs := by
  rw [strip?] at h
  split at h
  · cases h
    exact List.drop_subset _ _
  · cases h

namespace Eslint

theorem ruleEnd?_subset {cs rule : List Char} (h : ruleEnd? cs = some (some rule)) :
    rule ⊆ cs := by
  unfold ruleEnd? at h
  split at h
  · cases h
  · next cs =>
    split at h
    · cases h
      exact List.subset_cons_of_subset _ (List.dropLast_subset cs)
    · cases h
  · cases h

theorem brackets?_subset {cs rule : List Char} (h : brackets? cs = some (some rule)) :
    rule ⊆ cs := by
  unfold brackets? at h
  split at h
  · next rest hs => exact List.Subset.trans (ruleEnd?_subset h) (strip?_subset hs)
  · obtain ⟨rest, hs, hr⟩ := Option.bind_eq_some_iff.mp h
    exact List.Subset.trans (ruleEnd?_subset hr) (strip?_subset hs)

theorem message_subset (cs : List Char) :
    (message cs).1 ⊆ cs ∧ ∀ rule ∈ (message cs).2, rule ⊆ cs := by
  induction cs with
  | nil => simp [message]
  | cons c cs ih =>
    rw [message]
    split
    · next rule hb =>
      refine ⟨by simp, fun r hr => ?_⟩
      have hs : r ⊆ cs := brackets?_subset (hb.trans (congrArg some hr))
      exact List.subset_cons_of_subset c hs
    · refine ⟨List.cons_subset_cons c ih.1, fun r hr => ?_⟩
      exact List.subset_cons_of_subset c (ih.2 r hr)

/-- All parts of a finding stand in the text. -/
structure Finding.Within (f : Finding) (cs : List Char) : Prop where
  line : f.line ⊆ cs
  column : f.column ⊆ cs
  message : f.message ⊆ cs
  rule : ∀ rule ∈ f.rule, rule ⊆ cs

theorem Finding.Within.trans {f : Finding} {cs ds : List Char} (h : f.Within cs) (hs : cs ⊆ ds) :
    f.Within ds :=
  ⟨List.Subset.trans h.line hs, List.Subset.trans h.column hs, List.Subset.trans h.message hs,
    fun rule hr => List.Subset.trans (h.rule rule hr) hs⟩

theorem within_of_position? {cs line column rest : List Char}
    (h : position? cs = some (line, column, rest)) :
    Finding.Within ⟨line, column, (Eslint.message rest).1, (Eslint.message rest).2⟩ cs := by
  obtain ⟨-, -, -, rfl⟩ := (position?_eq_some_iff ..).mp h
  obtain ⟨hm, hr⟩ := message_subset rest
  have hrest : rest ⊆ line ++ ':' :: column ++ ':' :: ' ' :: rest :=
    fun c hc => by simp [hc]
  exact ⟨fun c hc => by simp [hc], fun c hc => by simp [hc],
    List.Subset.trans hm hrest, fun rule h => List.Subset.trans (hr rule h) hrest⟩

theorem within_of_afterPath? {cs : List Char} {f : Finding} (h : afterPath? cs = some f) :
    f.Within cs := by
  induction cs with
  | nil => cases h
  | cons c cs ih =>
    rw [afterPath?] at h
    split at h
    · next line column rest hp =>
      cases h
      split at hp
      · exact (within_of_position? hp).trans (List.subset_cons_self c cs)
      · cases hp
    · exact (ih h).trans (List.subset_cons_self c cs)

theorem within_of_finding? {line : List Char} {f : Finding} (h : finding? line = some f) :
    f.Within line := by
  cases line with
  | nil => cases h
  | cons c cs => exact (within_of_afterPath? h).trans (List.subset_cons_self c cs)

theorem Finding.Within.not_mem_chars {f : Finding} {cs : List Char} (h : f.Within cs)
    (hn : '\n' ∉ cs) : '\n' ∉ f.chars := by
  have hl : '\n' ∉ f.line := fun hm => hn (h.line hm)
  have hc : '\n' ∉ f.column := fun hm => hn (h.column hm)
  have hm : '\n' ∉ f.message := fun hm => hn (h.message hm)
  unfold Finding.chars
  cases hr : f.rule with
  | none => simp [hl, hc, hm]
  | some rule =>
    have hx : '\n' ∉ rule := fun hm => hn (h.rule rule hr hm)
    simp [hl, hc, hm, hx]

end Eslint

theorem Prettier.subject?_subset {line subject : List Char}
    (h : Prettier.subject? line = some subject) : subject ⊆ line := by
  rw [Prettier.subject?, Option.orElse_eq_orElse, Option.orElse_eq_or, Option.or_eq_some_iff] at h
  rcases h with h | ⟨-, h⟩
  · exact strip?_subset h
  · exact strip?_subset h

theorem not_mem_of_error? {tool : Tool} {line : List Char} {e : String} (hn : '\n' ∉ line)
    (h : error? tool line = some e) : '\n' ∉ e.toList := by
  cases tool with
  | prettier =>
    obtain ⟨s, hs, rfl⟩ := Option.map_eq_some_iff.mp h
    have hl : s ⊆ line := Prettier.subject?_subset (Option.mem_filter_iff.mp hs).1
    have hm : '\n' ∉ s := fun hm => hn (hl hm)
    simp [hm]
  | eslint =>
    obtain ⟨f, hf, rfl⟩ := Option.map_eq_some_iff.mp h
    rw [String.toList_ofList]
    exact (Eslint.within_of_finding? hf).not_mem_chars hn
  | typescript =>
    obtain ⟨-, rfl⟩ := (Typescript.error?_eq_some_iff line e).mp h
    rwa [String.toList_ofList]

theorem not_mem_of_mem_trimmedLines {text : String} {line : List Char}
    (h : line ∈ trimmedLines text) : '\n' ∉ line := by
  obtain ⟨l, hl, rfl⟩ := List.mem_map.mp h
  exact fun hm => Lines.not_mem_of_mem_lines hl ((Blank.trim_infix l).subset hm)

theorem not_mem_of_mem_errors {tool : Tool} {stdout stderr : String} {e : String}
    (h : e ∈ errors tool stdout stderr) : '\n' ∉ e.toList := by
  obtain ⟨line, hl, he⟩ := List.mem_filterMap.mp h
  refine not_mem_of_error? ?_ he
  rcases List.mem_append.mp hl with hl | hl
  · exact not_mem_of_mem_trimmedLines hl
  · exact not_mem_of_mem_trimmedLines hl

end QualityGate.Findings
