import QualityGate.Proofs.Findings.Eslint
import QualityGate.Proofs.Text.Blank

namespace QualityGate.Findings.Eslint

open Text

/-- A line that is no finding. -/
structure Remark where
  chars : List Char
  not_feed : '\n' ∉ chars
  not_colon : ':' ∉ chars

inductive Entry
  | finding (f : Printed)
  | remark (r : Remark)

inductive Ending
  | feed
  | returnFeed

def Ending.chars : Ending → List Char
  | .feed => ['\n']
  | .returnFeed => ['\r', '\n']

/-- What the linter writes: lines with their ends, and maybe one more line that has none. -/
structure Listing where
  ended : List (Entry × Ending)
  last : Option Entry

/-- The position, the message and, if there is one, the rule. -/
def Printed.told (f : Printed) : String :=
  match f.rule with
  | some rule => String.ofList
      (f.line ++ [':'] ++ f.column ++ [' '] ++ f.message ++ [' ', '('] ++ rule ++ [')'])
  | none => String.ofList (f.line ++ [':'] ++ f.column ++ [' '] ++ f.message)

namespace Entry

def chars : Entry → List Char
  | finding f => f.chars
  | remark r => r.chars

def told? : Entry → Option String
  | finding f => some f.told
  | remark _ => none

end Entry

namespace Listing

def entries (p : Listing) : List Entry :=
  p.ended.map Prod.fst ++ p.last.toList

def chars (p : Listing) : List Char :=
  p.ended.flatMap (fun x => x.1.chars ++ x.2.chars) ++ p.last.toList.flatMap Entry.chars

def text (p : Listing) : String :=
  String.ofList p.chars

end Listing

theorem afterPath?_of_not_mem {cs : List Char} (h : ':' ∉ cs) : afterPath? cs = none := by
  induction cs with
  | nil => rfl
  | cons c cs ih =>
    have hc : c ≠ ':' := fun hc => h (hc ▸ List.mem_cons_self)
    have hcs : ':' ∉ cs := fun hcs => h (List.mem_cons_of_mem c hcs)
    rw [afterPath?, if_neg hc]
    exact ih hcs

theorem error?_of_not_mem {cs : List Char} (h : ':' ∉ cs) : Eslint.error? cs = none := by
  have hf : finding? cs = none := by
    cases cs with
    | nil => rfl
    | cons c cs => exact afterPath?_of_not_mem fun hcs => h (List.mem_cons_of_mem c hcs)
  rw [Eslint.error?, hf, Option.map_none]

namespace Printed

theorem told_eq (f : Printed) : f.told = String.ofList f.toFinding.chars := by
  unfold told Finding.chars
  cases f.rule with
  | none => simp
  | some rule => simp

theorem error?_chars (f : Printed) : Eslint.error? f.chars = some f.told := by
  rw [Eslint.error?, f.finding?_chars, Option.map_some, f.told_eq]

theorem trim_chars (f : Printed) : Blank.trim f.chars = f.chars :=
  Blank.trim_of_ends f.not_blank_head f.not_blank_last

theorem dropReturn_chars (f : Printed) : Lines.dropReturn f.chars = f.chars := by
  apply Lines.dropReturn_of_getLast?
  rw [List.getLast?_eq_some_getLast f.chars_ne, f.getLast_chars]
  decide

end Printed

namespace Entry

theorem chars_line (e : Entry) : '\n' ∉ e.chars := by
  cases e with
  | finding f => exact f.chars_line
  | remark r => exact r.not_feed

theorem error?_trim_chars (e : Entry) : Eslint.error? (Blank.trim e.chars) = e.told? := by
  cases e with
  | finding f =>
    have ht : Blank.trim f.chars = f.chars := f.trim_chars
    rw [chars, ht, f.error?_chars, told?]
  | remark r => exact error?_of_not_mem fun h => r.not_colon ((Blank.trim_infix _).subset h)

theorem error?_trim_dropReturn (e : Entry) {cs : List Char} (h : cs = [] ∨ cs = ['\r']) :
    Eslint.error? (Blank.trim (Lines.dropReturn (e.chars ++ cs))) = e.told? := by
  rcases h with rfl | rfl
  · rw [List.append_nil]
    cases e with
    | finding f =>
      have hd : Lines.dropReturn f.chars = f.chars := f.dropReturn_chars
      rw [chars, hd]
      exact (finding f).error?_trim_chars
    | remark r =>
      refine error?_of_not_mem fun h => r.not_colon ?_
      exact (Lines.dropReturn_isPrefix _).subset ((Blank.trim_infix _).subset h)
  · rw [Lines.dropReturn_concat]
    exact e.error?_trim_chars

theorem filterMap_lines (e : Entry) (ending : Ending) (rest : List Char) :
    ((Lines.lines (e.chars ++ ending.chars ++ rest)).map Blank.trim).filterMap Eslint.error? =
      e.told?.toList ++ ((Lines.lines rest).map Blank.trim).filterMap Eslint.error? := by
  obtain ⟨cs, hcs, hr⟩ : ∃ cs, (cs = [] ∨ cs = ['\r']) ∧ ending.chars = cs ++ ['\n'] := by
    cases ending with
    | feed => exact ⟨[], .inl rfl, rfl⟩
    | returnFeed => exact ⟨['\r'], .inr rfl, rfl⟩
  have hn : '\n' ∉ e.chars ++ cs := by
    have he := e.chars_line
    rcases hcs with rfl | rfl <;> simp [he]
  have hl : e.chars ++ ending.chars ++ rest = (e.chars ++ cs) ++ '\n' :: rest := by
    simp [hr]
  rw [hl, Lines.lines_append_feed hn, List.map_cons, List.filterMap_cons,
    e.error?_trim_dropReturn hcs]
  cases e.told? <;> rfl

end Entry

namespace Listing

theorem filterMap_last (last : Option Entry) :
    ((Lines.lines (last.toList.flatMap Entry.chars)).map Blank.trim).filterMap Eslint.error? =
      last.toList.filterMap Entry.told? := by
  cases last with
  | none => rfl
  | some e =>
    have ht := e.error?_trim_chars
    by_cases hn : e.chars = []
    · have he : e.told? = none := by rw [← ht, hn]; rfl
      simp [hn, he, Lines.lines, Lines.pieces, Lines.ofPieces]
    · have hl : Lines.lines e.chars = [e.chars] := Lines.lines_of_not_mem e.chars_line hn
      simp only [Option.toList_some, List.flatMap_singleton, hl, List.map_cons, List.map_nil,
        List.filterMap_cons, List.filterMap_nil, ht]

theorem filterMap_chars (p : Listing) :
    ((Lines.lines p.chars).map Blank.trim).filterMap Eslint.error? =
      p.entries.filterMap Entry.told? := by
  obtain ⟨ended, last⟩ := p
  induction ended with
  | nil => exact filterMap_last last
  | cons x xs ih =>
    have hc : chars ⟨x :: xs, last⟩ = x.1.chars ++ x.2.chars ++ chars ⟨xs, last⟩ := by
      simp [chars]
    have he : entries ⟨x :: xs, last⟩ = x.1 :: entries ⟨xs, last⟩ := rfl
    rw [hc, x.1.filterMap_lines, ih, he, List.filterMap_cons]
    cases x.1.told? <;> rfl

/-- Of an output with findings and other lines, the findings are told in their order, first those on
standard output, each with its position, message and rule as they were printed. -/
theorem errors_listing (out err : Listing) :
    errors Tool.eslint out.text err.text = (out.entries ++ err.entries).filterMap Entry.told? := by
  have hs : ∀ p : Listing, (trimmedLines p.text).filterMap Eslint.error? =
      p.entries.filterMap Entry.told? := by
    intro p
    rw [trimmedLines, text, String.toList_ofList]
    exact p.filterMap_chars
  calc errors Tool.eslint out.text err.text
      = (trimmedLines out.text ++ trimmedLines err.text).filterMap Eslint.error? := rfl
    _ = (out.entries ++ err.entries).filterMap Entry.told? := by
      rw [List.filterMap_append, List.filterMap_append, hs, hs]

end Listing

end QualityGate.Findings.Eslint
