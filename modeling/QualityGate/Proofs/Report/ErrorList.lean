import QualityGate.Proofs.Findings.Blank
import QualityGate.Proofs.Text.Blank
import QualityGate.Report.ErrorList

namespace QualityGate

open Text

/-- The lines for the errors of one tool: its name, and the error without the blanks around it. A
blank error has no line. -/
inductive Labelled (name : String) : List String → List String → Prop
  | nil : Labelled name [] []
  | blank {error : String} {errors lines : List String} (he : Blank.Stripped error.toList [])
      (h : Labelled name errors lines) : Labelled name (error :: errors) lines
  | spoken {error line : String} {errors lines : List String} {core : List Char}
      (he : Blank.Stripped error.toList core) (hn : core ≠ [])
      (hl : line.toList = name.toList ++ [':', ' '] ++ core) (h : Labelled name errors lines) :
      Labelled name (error :: errors) (line :: lines)

/-- The lines for all errors of a report, tool after tool. -/
def CheckReport.LabelledAs (report : CheckReport) (lines : List String) : Prop :=
  ∃ ps es ts, Labelled "Prettier" (report.errors .prettier) ps ∧
    Labelled "ESLint" (report.errors .eslint) es ∧
    Labelled "TypeScript" (report.errors .typescript) ts ∧ lines = ps ++ es ++ ts

namespace ErrorList

theorem toList_entry (tool : Tool) (error : String) :
    (entry tool error).toList = (tool.label ++ ": ").toList ++ Blank.trim error.toList := by
  rw [entry, String.toList_append, Blank.trimmed, String.toList_ofList]

theorem toList_entry_of_stripped {error : String} {core : List Char}
    (h : Blank.Stripped error.toList core) (tool : Tool) :
    (entry tool error).toList = tool.label.toList ++ [':', ' '] ++ core := by
  rw [toList_entry, String.toList_append, Blank.stripped_iff.mp h]
  rfl

theorem labelled_iff (tool : Tool) (errors lines : List String) :
    Labelled tool.label errors lines ↔
      lines = (errors.filter fun e => !Blank.isBlankText e).map (entry tool) := by
  constructor
  · intro h
    induction h with
    | nil => rfl
    | @blank error _ _ he _ ih =>
      have hb : Blank.isBlankText error = true := (Blank.isBlankText_iff error).mpr he
      rw [List.filter_cons_of_neg (by simp [hb]), ih]
    | @spoken error line _ _ core he hn hl _ ih =>
      have hb : Blank.isBlankText error = false := by
        rw [Bool.eq_false_iff, ne_eq, Blank.isBlankText_iff, Blank.stripped_iff,
          Blank.stripped_iff.mp he]
        exact hn
      have hline : line = entry tool error :=
        String.toList_injective (hl.trans (toList_entry_of_stripped he tool).symm)
      rw [List.filter_cons_of_pos (by simp [hb]), List.map_cons, ih, hline]
  · rintro rfl
    induction errors with
    | nil => exact .nil
    | cons error errors ih =>
      have hs := Blank.stripped_trim error.toList
      by_cases hb : Blank.isBlankText error = true
      · rw [List.filter_cons_of_neg (by simp [hb])]
        exact .blank ((Blank.isBlankText_iff error).mp hb) ih
      · rw [List.filter_cons_of_pos (by simpa using hb)]
        refine .spoken hs (fun hn => hb ?_) (toList_entry_of_stripped hs tool) ih
        exact (Blank.isBlankText_iff error).mpr (hn ▸ hs)

theorem labelledAs_iff (report : CheckReport) (lines : List String) :
    report.LabelledAs lines ↔ lines = entries report := by
  have he : entries report = entriesOf report .prettier ++ entriesOf report .eslint ++
      entriesOf report .typescript := by
    simp [entries, Tool.all]
  rw [he]
  constructor
  · rintro ⟨ps, es, ts, hp, hs, ht, rfl⟩
    rw [(labelled_iff .prettier _ _).mp hp, (labelled_iff .eslint _ _).mp hs,
      (labelled_iff .typescript _ _).mp ht]
    rfl
  · rintro rfl
    exact ⟨_, _, _, (labelled_iff .prettier _ _).mpr rfl, (labelled_iff .eslint _ _).mpr rfl,
      (labelled_iff .typescript _ _).mpr rfl, rfl⟩

theorem mem_entries {report : CheckReport} {tool : Tool} {error : String}
    (h : error ∈ report.errors tool) (hb : Blank.isBlankText error = false) :
    entry tool error ∈ entries report := by
  refine List.mem_flatMap.mpr ⟨tool, tool.mem_all, List.mem_map.mpr ⟨error, ?_, rfl⟩⟩
  exact List.mem_filter.mpr ⟨h, by simp [hb]⟩

theorem exists_of_mem_entries {report : CheckReport} {l : String} (h : l ∈ entries report) :
    ∃ tool, ∃ error ∈ report.errors tool, l = entry tool error := by
  obtain ⟨tool, -, hl⟩ := List.mem_flatMap.mp h
  obtain ⟨error, he, rfl⟩ := List.mem_map.mp hl
  exact ⟨tool, error, (List.mem_filter.mp he).1, rfl⟩

theorem text?_eq_some {report : CheckReport} (h : entries report ≠ []) :
    text? report = some ("\n".intercalate (entries report)) := by
  unfold text?
  split
  · next hn => exact absurd hn h
  · next hn => rw [hn]

theorem text?_eq_none {report : CheckReport} (h : entries report = []) : text? report = none := by
  rw [text?, h]

theorem head_intercalate {report : CheckReport} (h : entries report ≠ []) :
    ∃ tool : Tool, ("\n".intercalate (entries report)).toList.head? = tool.label.toList.head? := by
  obtain ⟨l, ls, he⟩ := List.exists_cons_of_ne_nil h
  obtain ⟨tool, error, -, rfl⟩ := exists_of_mem_entries (he ▸ List.mem_cons_self)
  refine ⟨tool, ?_⟩
  rw [he, String.toList_intercalate, List.map_cons]
  cases ls <;> cases tool <;> simp [entry, Tool.label, List.intercalate]

theorem not_mem_entry {error : String} (h : '\n' ∉ error.toList) (tool : Tool) :
    '\n' ∉ (entry tool error).toList := by
  have hl : '\n' ∉ (tool.label ++ ": ").toList := by cases tool <;> decide
  have hr : '\n' ∉ Blank.trim error.toList :=
    fun hm => h ((Blank.trim_infix error.toList).subset hm)
  rw [toList_entry, List.mem_append]
  exact fun hm => hm.elim hl hr

theorem not_blank_entry (tool : Tool) (error : String) :
    Blank.isBlankText (entry tool error) = false := by
  refine Blank.isBlankText_of_mem (c := ':') ?_ (by decide)
  simp [toList_entry]

end ErrorList
end QualityGate
