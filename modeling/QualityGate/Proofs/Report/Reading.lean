import QualityGate.Proofs.Report.Blocking

namespace QualityGate

open Text

/-- What a blocking text tells. -/
structure Reading where
  issues : List (Nat × String)
  context : Option String

namespace Reading

def mark : List Char := ". QUALITY ISSUE: ".toList

def label : List Char := "CONTEXT: ".toList

/-- The number and the text of an issue, if the line has them. -/
def issueOf? (line : List Char) : Option (Nat × String) :=
  let rest := line.dropWhile Char.isDigit
  if mark.isPrefixOf rest then
    some (Nat.ofDigitChars 10 (line.takeWhile Char.isDigit) 0,
      String.ofList (rest.drop mark.length))
  else none

/-- The issues at the start of some lines, and the lines after them. -/
def issuesOf : List (List Char) → List (Nat × String) × List (List Char)
  | line :: demand :: blank :: rest =>
    match issueOf? line with
    | some issue => (issue :: (issuesOf rest).1, (issuesOf rest).2)
    | none => ([], line :: demand :: blank :: rest)
  | rest => ([], rest)

def contextOf? (lines : List (List Char)) : Option String :=
  let text := ['\n'].intercalate (lines.take (lines.length - 3))
  if label.isPrefixOf text then some (String.ofList (text.drop label.length)) else none

def ofText (s : String) : Reading :=
  let (issues, rest) := issuesOf ((Lines.pieces s.toList).drop 3)
  ⟨issues, contextOf? rest⟩

theorem issueOf?_numbered (n : Nat) (line : List Char) :
    issueOf? ((Digits.decimal n).toList ++ (mark ++ line)) = some (n, String.ofList line) := by
  have hd : ∀ c ∈ (Digits.decimal n).toList, c.isDigit = true :=
    fun c hc => Digits.isDigit_of_mem_decimal hc
  have hm : (mark ++ line).takeWhile Char.isDigit = [] := rfl
  have hm' : (mark ++ line).dropWhile Char.isDigit = mark ++ line := rfl
  have hp : mark.isPrefixOf (mark ++ line) = true := by simp
  have hn : Nat.ofDigitChars 10 (Digits.decimal n).toList 0 = n := by
    rw [Digits.toList_decimal]
    exact Nat.ofDigitChars_ten_toDigits
  rw [issueOf?, List.takeWhile_append_of_pos hd, List.dropWhile_append_of_pos hd, hm, hm',
    List.append_nil, hn, if_pos hp, List.drop_left]

theorem issuesOf_of_none {line : List Char} (h : issueOf? line = none)
    (rest : List (List Char)) : issuesOf (line :: rest) = ([], line :: rest) := by
  match rest with
  | [] => rfl
  | [_] => rfl
  | _ :: _ :: _ => simp only [issuesOf, h]

theorem issuesOf_items (n : Nat) (lines : List String) {rest : List (List Char)}
    (hr : issuesOf rest = ([], rest)) :
    issuesOf (((lines.zipIdx n).flatMap fun p => BlockingMessage.item p.1 p.2).map String.toList ++
        rest) =
      ((List.range' n lines.length).zip lines, rest) := by
  induction lines generalizing n with
  | nil => exact hr
  | cons line lines ih =>
    have hl : (Digits.decimal n ++ ". QUALITY ISSUE: " ++ line).toList =
        (Digits.decimal n).toList ++ (mark ++ line.toList) :=
      calc
        _ = (Digits.decimal n ++ ". QUALITY ISSUE: ").toList ++ line.toList :=
          String.toList_append
        _ = ((Digits.decimal n).toList ++ mark) ++ line.toList :=
          congrArg (· ++ line.toList) String.toList_append
        _ = _ := List.append_assoc ..
    have hi : issueOf? (Digits.decimal n ++ ". QUALITY ISSUE: " ++ line).toList =
        some (n, line) := by
      rw [hl, issueOf?_numbered, String.ofList_toList]
    rw [List.zipIdx_cons, List.flatMap_cons, List.map_append, List.append_assoc,
      BlockingMessage.item]
    simp only [List.map_cons, List.map_nil, List.cons_append, List.nil_append, issuesOf, hi, ih,
      List.length_cons, List.range'_succ, List.zip_cons_cons]

/-- The lines for the context, each ended by a line feed, also those that end in it. -/
def contextPieces : Option String → List (List Char)
  | some context => Lines.pieces (label ++ context.toList) ++ [[]]
  | none => []

def ending : List (List Char) := [BlockingMessage.closing.toList, []]

theorem issuesOf_tail (context : Option String) :
    issuesOf (contextPieces context ++ ending) = ([], contextPieces context ++ ending) := by
  cases context with
  | none => rfl
  | some context =>
    obtain ⟨p, ps, hp⟩ : ∃ p ps, Lines.pieces (label ++ context.toList) = ('C' :: p) :: ps := by
      obtain ⟨q, qs, hq⟩ := List.exists_cons_of_ne_nil
        (Lines.pieces_ne_nil ("ONTEXT: ".toList ++ context.toList))
      refine ⟨q, qs, ?_⟩
      change Lines.pieces ('C' :: ("ONTEXT: ".toList ++ context.toList)) = _
      rw [Lines.pieces, if_neg (by decide), hq]
    have hn : issueOf? ('C' :: p) = none := rfl
    rw [contextPieces, hp]
    exact issuesOf_of_none hn _

theorem contextOf?_tail (context : Option String) :
    contextOf? (contextPieces context ++ ending) = context := by
  cases context with
  | none => rfl
  | some context =>
    have ht : (contextPieces (some context) ++ ending).take
        ((contextPieces (some context) ++ ending).length - 3) =
          Lines.pieces (label ++ context.toList) := by
      rw [contextPieces, List.append_assoc]
      exact List.take_left' (by simp [ending])
    have hp : label.isPrefixOf (label ++ context.toList) = true := by simp
    rw [contextOf?, ht, Lines.intercalate_pieces, if_pos hp, List.drop_left, String.ofList_toList]

theorem flatMap_contextLines (context : Option String) :
    ((BlockingMessage.contextLines context).map String.toList).flatMap Lines.pieces =
      contextPieces context := by
  cases context with
  | none => rfl
  | some c =>
    have hl : ("CONTEXT: " ++ c).toList = label ++ c.toList := String.toList_append
    rw [BlockingMessage.contextLines, contextPieces, List.map_cons, List.flatMap_cons, hl]
    rfl

theorem pieces_render (m : BlockingMessage) :
    Lines.pieces m.render.toList =
      [[], BlockingMessage.header.toList, []] ++
        (((m.issueLines.zipIdx 1).flatMap fun p => BlockingMessage.item p.1 p.2).map
          String.toList ++ (contextPieces m.shownContext ++ ending)) := by
  have hi : ∀ l ∈ ((m.issueLines.zipIdx 1).flatMap fun p =>
      BlockingMessage.item p.1 p.2).map String.toList, '\n' ∉ l := by
    intro l hl
    obtain ⟨s, hs, rfl⟩ := List.mem_map.mp hl
    obtain ⟨p, hp, hs⟩ := List.mem_flatMap.mp hs
    have hp' : '\n' ∉ p.1.toList :=
      BlockingMessage.not_mem_of_mem_issueLines (List.fst_mem_of_mem_zipIdx hp)
    exact BlockingMessage.not_mem_of_mem_item hp' hs
  have hh : Lines.pieces BlockingMessage.header.toList = [BlockingMessage.header.toList] :=
    Lines.pieces_of_not_mem (by decide)
  have hc : Lines.pieces BlockingMessage.closing.toList = [BlockingMessage.closing.toList] :=
    Lines.pieces_of_not_mem (by decide)
  rw [BlockingMessage.render_eq, String.toList_intercalate]
  change Lines.pieces (['\n'].intercalate _) = _
  rw [Lines.pieces_join (by simp), BlockingMessage.layout]
  simp only [List.map_append, List.flatMap_append, Lines.flatMap_pieces hi, flatMap_contextLines,
    List.append_assoc]
  simp [hh, hc, Lines.pieces, ending]

theorem ofText_render (m : BlockingMessage) :
    ofText m.render = ⟨(List.range' 1 m.issueLines.length).zip m.issueLines, m.shownContext⟩ := by
  have hd : (Lines.pieces m.render.toList).drop 3 =
      ((m.issueLines.zipIdx 1).flatMap fun p => BlockingMessage.item p.1 p.2).map String.toList ++
        (contextPieces m.shownContext ++ ending) := by
    rw [pieces_render]
    rfl
  rw [ofText, hd, issuesOf_items 1 m.issueLines (issuesOf_tail m.shownContext)]
  exact congrArg (Reading.mk _) (contextOf?_tail m.shownContext)

end Reading

namespace BlockingMessage

theorem shownContext_eq_some_iff (m : BlockingMessage) (c : String) :
    m.shownContext = some c ↔ m.context = some c ∧ c ≠ m.reason := by
  simp [shownContext, Option.filter_eq_some_iff]

/--
A blocking text tells its issues, which are numbered from 1 on, and its context. Texts that are
equal tell the same, whatever was written into the issues and into the context.
-/
theorem render_readable (m : BlockingMessage) :
    (Reading.ofText m.render).issues.map Prod.fst = List.range' 1 m.issueLines.length ∧
    (Reading.ofText m.render).issues.map Prod.snd = m.issueLines ∧
    (Reading.ofText m.render).context = m.shownContext ∧
    (∀ c, m.shownContext = some c ↔ m.context = some c ∧ c ≠ m.reason) ∧
    ∀ m' : BlockingMessage, m'.render = m.render →
      m'.issueLines = m.issueLines ∧ m'.shownContext = m.shownContext := by
  have hn : ∀ m : BlockingMessage,
      (Reading.ofText m.render).issues.map Prod.snd = m.issueLines := fun m => by
    rw [Reading.ofText_render, List.map_snd_zip (by simp)]
  have hc : ∀ m : BlockingMessage, (Reading.ofText m.render).context = m.shownContext :=
    fun m => by rw [Reading.ofText_render]
  refine ⟨?_, hn m, hc m, m.shownContext_eq_some_iff, fun m' h => ⟨?_, ?_⟩⟩
  · rw [Reading.ofText_render, List.map_fst_zip (by simp)]
  · rw [← hn m', h, hn m]
  · rw [← hc m', h, hc m]

end BlockingMessage

end QualityGate
