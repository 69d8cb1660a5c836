import QualityGate.Proofs.Text.Digits
import QualityGate.Proofs.Text.Lines
import QualityGate.Report.Blocking
import Mathlib.Tactic.SplitIfs

namespace QualityGate.BlockingMessage

open Text

theorem isIssueLine_iff (line : List Char) :
    isIssueLine line = true ↔
      (∃ c ∈ line, Blank.isBlank c = false) ∧ ¬ issuesHeader.toList <:+: line := by
  rw [isIssueLine, Bool.and_eq_true, Bool.not_eq_true', Bool.not_eq_true', List.all_eq_false,
    Bool.eq_false_iff, ne_eq, Lines.hasPart_iff]
  simp

theorem header_infix_concat (line : List Char) :
    issuesHeader.toList <:+: line ++ ['\r'] ↔ issuesHeader.toList <:+: line := by
  rw [List.infix_concat_iff]
  refine or_iff_right fun h => ?_
  have hl : ('\r' : Char) = issuesHeader.toList.getLast (by decide) := by
    rw [h.getLast (by decide)]
    simp
  exact absurd hl (by decide)

theorem isIssueLine_concat (line : List Char) :
    isIssueLine (line ++ ['\r']) = isIssueLine line := by
  have hr : Blank.isBlank '\r' = true := by decide
  rw [Bool.eq_iff_iff, isIssueLine_iff, isIssueLine_iff, header_infix_concat]
  simp [hr, or_and_right, exists_or]

theorem isIssueLine_dropReturn (line : List Char) :
    isIssueLine (Lines.dropReturn line) = isIssueLine line := by
  rcases Lines.dropReturn_cases line with h | h
  · rw [h]
  · conv => rhs; rw [h, isIssueLine_concat]

theorem filter_map_dropReturn (ps : List (List Char)) :
    (ps.map Lines.dropReturn).filter isIssueLine =
      (ps.filter isIssueLine).map Lines.dropReturn := by
  have hc : isIssueLine ∘ Lines.dropReturn = isIssueLine := funext isIssueLine_dropReturn
  rw [List.filter_map, hc]

theorem filter_ofPieces_concat (ps : List (List Char)) (p : List Char) :
    (Lines.ofPieces (ps ++ [p])).filter isIssueLine =
      (ps.filter isIssueLine).map Lines.dropReturn ++ [p].filter isIssueLine := by
  rw [Lines.ofPieces_concat, List.filter_append, filter_map_dropReturn]
  cases p with
  | nil => rfl
  | cons c cs => rfl

theorem issueLines_concat (ls : List String) (l : String) (context : Option String)
    (h : ∀ x ∈ ls ++ [l], '\n' ∉ x.toList) :
    issueLines ⟨"\n".intercalate (ls ++ [l]), context⟩ =
      (((ls.map String.toList).filter isIssueLine).map Lines.dropReturn ++
        [l.toList].filter isIssueLine).map String.ofList := by
  rw [issueLines, Lines.lines, Lines.pieces_text (by simp) h, List.map_append,
    List.map_singleton, filter_ofPieces_concat]

theorem issueLines_intercalate {ls : List String} (context : Option String)
    (h : ∀ l ∈ ls, '\n' ∉ l.toList) (hr : ∀ l ∈ ls, l.toList.getLast? ≠ some '\r') :
    issueLines ⟨"\n".intercalate ls, context⟩ = ls.filter fun l => isIssueLine l.toList := by
  obtain rfl | ⟨ls, l, rfl⟩ := List.eq_nil_or_concat' ls
  · rfl
  · have hd : ((ls.map String.toList).filter isIssueLine).map Lines.dropReturn =
        (ls.map String.toList).filter isIssueLine := by
      refine (List.map_congr_left fun l hl => ?_).trans (List.map_id _)
      obtain ⟨s, hs, rfl⟩ := List.mem_map.mp (List.mem_filter.mp hl).1
      exact Lines.dropReturn_of_getLast? (hr s (List.mem_append_left _ hs))
    have ho : String.ofList ∘ String.toList = id := funext fun s => String.ofList_toList
    rw [issueLines_concat ls l context h, hd, ← List.map_singleton, ← List.filter_append,
      ← List.map_append, List.filter_map, List.map_map, ho, List.map_id]
    rfl

theorem issueLines_eq_nil_iff {ls : List String} (context : Option String)
    (h : ∀ l ∈ ls, '\n' ∉ l.toList) :
    issueLines ⟨"\n".intercalate ls, context⟩ = [] ↔
      ∀ l ∈ ls, isIssueLine l.toList = false := by
  obtain rfl | ⟨ls, l, rfl⟩ := List.eq_nil_or_concat' ls
  · simp [issueLines, Lines.lines, Lines.pieces, Lines.ofPieces, String.intercalate]
  · rw [issueLines_concat ls l context h]
    simp [or_imp, forall_and]

theorem issuesText_eq {issues : List Issue} (h : issues ≠ []) :
    issuesText issues = "\n".intercalate (issuesHeader :: "" :: issues.map Issue.displayText) := by
  have hm : issues.map Issue.displayText ≠ [] := by simpa using h
  obtain ⟨text, texts, ht⟩ := List.exists_cons_of_ne_nil hm
  have hf : "\n\n" = "\n" ++ "\n" := rfl
  rw [issuesText, ht, String.intercalate_cons_cons, String.intercalate_cons_cons,
    String.empty_append, hf]
  simp only [String.append_assoc]

/-- A text that has a line of its own among the numbered ones. -/
structure Listable (text : String) : Prop where
  no_feed : '\n' ∉ text.toList
  no_return : text.toList.getLast? ≠ some '\r'
  shown : isIssueLine text.toList = true

theorem issueLines_of_listable {ls : List String} (context : Option String)
    (h : ∀ l ∈ ls, Listable l) : issueLines ⟨"\n".intercalate ls, context⟩ = ls := by
  rw [issueLines_intercalate context (fun l hl => (h l hl).no_feed) fun l hl => (h l hl).no_return,
    List.filter_eq_self]
  exact fun l hl => (h l hl).shown

theorem issueLines_issuesText_nil (context : Option String) :
    issueLines ⟨issuesText [], context⟩ = [] := by
  have h : issueLines ⟨issuesText [], none⟩ = [] := by decide
  exact h

theorem issueLines_issuesText {issues : List Issue} (context : Option String)
    (h : ∀ i ∈ issues, Listable i.displayText) :
    issueLines ⟨issuesText issues, context⟩ = issues.map Issue.displayText := by
  by_cases hn : issues = []
  · rw [hn]
    exact issueLines_issuesText_nil context
  · have hl : ∀ l ∈ issues.map Issue.displayText, Listable l := by simpa using h
    have hf : ∀ l ∈ issuesHeader :: "" :: issues.map Issue.displayText, '\n' ∉ l.toList := by
      simpa [issuesHeader] using fun i hi => (h i hi).no_feed
    have hr : ∀ l ∈ issuesHeader :: "" :: issues.map Issue.displayText,
        l.toList.getLast? ≠ some '\r' := by
      simpa [issuesHeader] using fun i hi => (h i hi).no_return
    have hh : isIssueLine issuesHeader.toList = false := by decide
    have he : isIssueLine [] = false := rfl
    rw [issuesText_eq hn, issueLines_intercalate context hf hr,
      List.filter_cons_of_neg (by simp [hh]), List.filter_cons_of_neg (by simp [he]),
      List.filter_eq_self]
    exact fun l hm => (hl l hm).shown

theorem shownContext_of_ne {reason context : String} (h : context ≠ reason) :
    shownContext ⟨reason, some context⟩ = some context := by
  simp [shownContext, Option.filter, h]

theorem head_issuesText (issues : List Issue) : (issuesText issues).toList.head? = some '❌' := by
  simp [issuesText, issuesHeader]

def item (line : String) (n : Nat) : List String :=
  [Digits.decimal n ++ ". QUALITY ISSUE: " ++ line, demand, ""]

theorem numbered_eq (n : Nat) (ls : List String) :
    numbered n ls = (ls.zipIdx n).flatMap fun p => item p.1 p.2 := by
  induction ls generalizing n with
  | nil => rfl
  | cons l ls ih =>
    rw [numbered, ih, List.zipIdx_cons, List.flatMap_cons]
    rfl

/-- A line with the number of an issue at its start. -/
def IsNumbered (line : List Char) : Prop :=
  ∃ n, (Digits.decimal n ++ ". QUALITY ISSUE: ").toList <+: line

theorem IsNumbered.head {line : List Char} (h : IsNumbered line) :
    ∃ c cs, line = c :: cs ∧ c.isDigit = true := by
  obtain ⟨n, t, rfl⟩ := h
  obtain ⟨c, cs, hc, hd⟩ := Digits.exists_cons_decimal n
  refine ⟨c, cs ++ ". QUALITY ISSUE: ".toList ++ t, ?_, hd⟩
  rw [String.toList_append, hc]
  simp

theorem not_isNumbered_of_head {line : List Char} (h : ∀ c ∈ line.head?, c.isDigit = false) :
    ¬ IsNumbered line := by
  intro hn
  obtain ⟨c, cs, rfl, hc⟩ := hn.head
  have hd : c.isDigit = false := h c rfl
  rw [hc] at hd
  cases hd

theorem isNumbered_dropReturn (line : List Char) :
    IsNumbered (Lines.dropReturn line) ↔ IsNumbered line := by
  constructor
  · rintro ⟨n, h⟩
    exact ⟨n, h.trans (Lines.dropReturn_isPrefix line)⟩
  · rintro ⟨n, h⟩
    refine ⟨n, ?_⟩
    rcases Lines.dropReturn_cases line with he | he
    · rwa [he]
    · rw [he, List.prefix_concat_iff] at h
      refine h.resolve_left fun hr => ?_
      have hl := congrArg List.getLast? hr
      simp at hl

theorem isNumbered_item (line : String) (n : Nat) :
    ∃ l ∈ item line n, IsNumbered l.toList := by
  exact ⟨_, List.mem_cons_self, n, line.toList, String.toList_append.symm⟩

theorem not_mem_of_mem_issueLines {m : BlockingMessage} {line : String}
    (h : line ∈ m.issueLines) : '\n' ∉ line.toList := by
  obtain ⟨l, hl, rfl⟩ := List.mem_map.mp h
  rw [String.toList_ofList]
  exact Lines.not_mem_of_mem_lines (List.mem_filter.mp hl).1

theorem not_mem_of_mem_item {line l : String} {n : Nat} (h : '\n' ∉ line.toList)
    (hl : l ∈ item line n) : '\n' ∉ l.toList := by
  have hd := Digits.not_mem_decimal n
  simp only [item, List.mem_cons, List.not_mem_nil, or_false] at hl
  rcases hl with rfl | rfl | rfl
  · simp [hd, h]
  · simp [demand]
  · simp

def contextLines : Option String → List String
  | some context => ["CONTEXT: " ++ context, ""]
  | none => []

/-- The lines of a message that numbers the given ones and shows the given context. -/
def layout (lines : List String) (context : Option String) : List String :=
  ["", header, ""] ++ (lines.zipIdx 1).flatMap (fun p => item p.1 p.2) ++ contextLines context ++
    [closing]

theorem render_eq (m : BlockingMessage) :
    m.render = "\n".intercalate (layout m.issueLines m.shownContext ++ [""]) := by
  have hl : m.renderedLines = layout m.issueLines m.shownContext ++ [""] := by
    rw [renderedLines, numbered_eq, layout]
    cases m.shownContext with
    | none => simp [contextLines]
    | some context => simp [contextLines]
  rw [render, hl]

theorem not_mem_of_mem_layout {lines : List String} {context : Option String}
    (h : ∀ line ∈ lines, '\n' ∉ line.toList) (hc : ∀ c ∈ context, '\n' ∉ c.toList)
    {l : String} (hl : l ∈ layout lines context) : '\n' ∉ l.toList := by
  simp only [layout, List.mem_append] at hl
  rcases hl with ((hl | hl) | hl) | hl
  · simp only [List.mem_cons, List.not_mem_nil, or_false] at hl
    rcases hl with rfl | rfl | rfl <;> simp [header]
  · obtain ⟨p, hp, hl⟩ := List.mem_flatMap.mp hl
    exact not_mem_of_mem_item (h p.1 (List.fst_mem_of_mem_zipIdx hp)) hl
  · cases context with
    | none => cases hl
    | some c =>
      have hn : '\n' ∉ c.toList := hc c rfl
      simp only [contextLines, List.mem_cons, List.not_mem_nil, or_false] at hl
      rcases hl with rfl | rfl
      · simp [hn]
      · simp
  · rw [List.mem_singleton.mp hl]
    simp [closing]

theorem lines_render (m : BlockingMessage) (hc : ∀ c ∈ m.context, '\n' ∉ c.toList) :
    Lines.lines m.render.toList =
      (layout m.issueLines m.shownContext).map fun l => Lines.dropReturn l.toList := by
  have hs : ∀ c ∈ m.shownContext, '\n' ∉ c.toList :=
    fun c h => hc c (Option.mem_filter_iff.mp h).1
  have hn : ∀ l ∈ layout m.issueLines m.shownContext ++ [""], '\n' ∉ l.toList := by
    intro l hl
    rcases List.mem_append.mp hl with hl | hl
    · exact not_mem_of_mem_layout (fun _ => not_mem_of_mem_issueLines) hs hl
    · rw [List.mem_singleton.mp hl]
      decide
  rw [Lines.lines, render_eq, Lines.pieces_text (by simp) hn, List.map_append, List.map_singleton,
    Lines.ofPieces_concat]
  simp [Function.comp_def]

theorem not_isNumbered_frame (context : Option String) {l : String}
    (h : l ∈ ["", header, closing] ∨ l ∈ contextLines context) : ¬ IsNumbered l.toList := by
  rcases h with h | h
  · simp only [List.mem_cons, List.not_mem_nil, or_false] at h
    rcases h with rfl | rfl | rfl
    · exact not_isNumbered_of_head (by simp)
    · exact not_isNumbered_of_head (by simp [header])
    · exact not_isNumbered_of_head (by simp [closing])
  · cases context with
    | none => cases h
    | some c =>
      simp only [contextLines, List.mem_cons, List.not_mem_nil, or_false] at h
      rcases h with rfl | rfl
      · exact not_isNumbered_of_head (by simp)
      · exact not_isNumbered_of_head (by simp)

theorem exists_isNumbered_layout (lines : List String) (context : Option String) :
    (∃ l ∈ layout lines context, IsNumbered l.toList) ↔ lines ≠ [] := by
  constructor
  · rintro ⟨l, hl, hn⟩ rfl
    refine not_isNumbered_frame context ?_ hn
    simp only [layout, List.zipIdx_nil, List.flatMap_nil, List.append_nil, List.mem_append] at hl
    rcases hl with (hl | hl) | hl
    · have hs : ["", header, ""] ⊆ ["", header, closing] := by simp
      exact .inl (hs hl)
    · exact .inr hl
    · have hs : [closing] ⊆ ["", header, closing] := by simp
      exact .inl (hs hl)
  · intro h
    obtain ⟨line, rest, rfl⟩ := List.exists_cons_of_ne_nil h
    obtain ⟨l, hl, hn⟩ := isNumbered_item line 1
    refine ⟨l, ?_, hn⟩
    simp [layout, hl]

theorem exists_isNumbered_render (m : BlockingMessage)
    (hc : ∀ c ∈ m.context, '\n' ∉ c.toList) :
    (∃ line ∈ Lines.lines m.render.toList, IsNumbered line) ↔ m.issueLines ≠ [] := by
  rw [lines_render m hc, ← exists_isNumbered_layout m.issueLines m.shownContext]
  simp [isNumbered_dropReturn]

end QualityGate.BlockingMessage
