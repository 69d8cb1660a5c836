import QualityGate.Proofs.Findings.Blank
import QualityGate.Proofs.Findings.OneLine

namespace QualityGate.Findings

open Text

def Ended (s : String) : Prop :=
  s = "" ∨ ∃ t, s = t ++ "\n"

def returned (cs : List Char) : List Char :=
  cs.flatMap fun c => if c = '\n' then ['\r', '\n'] else [c]

/-- The text with a carriage return before each line feed. -/
def withReturns (s : String) : String :=
  String.ofList (returned s.toList)

def isMargin (c : Char) : Bool :=
  Blank.isBlank c && c != '\n'

/-- Two lines with one text between the blanks at their ends. -/
inductive Padded : List Char → List Char → Prop
  | mk {before before' after after' text : List Char}
      (hp : ∀ c ∈ before ++ after ++ before' ++ after', isMargin c = true)
      (ht : '\n' ∉ text) : Padded (before ++ text ++ after) (before' ++ text ++ after')

/-- Two texts whose lines differ in the blanks at their ends, if at all. -/
inductive Respaced : List Char → List Char → Prop
  | last {l l' : List Char} (h : Padded l l') : Respaced l l'
  | line {l l' rest rest' : List Char} (h : Padded l l') (hr : Respaced rest rest') :
      Respaced (l ++ '\n' :: rest) (l' ++ '\n' :: rest')

/-- A reader of a tool's output for which lines stand for themselves. -/
structure LineLocal (read : String → String → List String) : Prop where
  streams : ∀ out err, read out err = read out "" ++ read err ""
  append : ∀ a b, Ended a → read (a ++ b) "" = read a "" ++ read b ""
  returns : ∀ out err, read (withReturns out) (withReturns err) = read out err
  respaced : ∀ out out' err err' : String, Respaced out.toList out'.toList →
    Respaced err.toList err'.toList → read out err = read out' err'
  line : ∀ out err, ∀ e ∈ read out err, Blank.isBlankText e = false ∧ '\n' ∉ e.toList

def errorsIn (tool : Tool) (cs : List Char) : List String :=
  (Lines.pieces cs).filterMap fun p => error? tool (Blank.trim p)

theorem trim_trim (cs : List Char) : Blank.trim (Blank.trim cs) = Blank.trim cs :=
  Blank.trim_of_ends (Blank.stripped_trim cs).head (Blank.stripped_trim cs).last

variable (tool : Tool)

theorem error?_nil : error? tool [] = none := by
  cases tool <;> rfl

theorem filterMap_ofPieces (ps : List (List Char)) :
    ((Lines.ofPieces ps).map Blank.trim).filterMap (error? tool) =
      ps.filterMap fun p => error? tool (Blank.trim p) := by
  rcases List.eq_nil_or_concat' ps with rfl | ⟨ps, p, rfl⟩
  · rfl
  · rw [Lines.ofPieces_concat, List.map_append, List.map_map, List.filterMap_append,
      List.filterMap_append, List.filterMap_map]
    congr 1
    · refine List.filterMap_congr fun q _ => ?_
      rw [Function.comp_apply, Function.comp_apply, trim_dropReturn]
    · cases p with
      | nil => simp [Blank.trim, Blank.trimEnd, Blank.trimStart, error?_nil]
      | cons c cs => rfl

theorem errors_eq (out err : String) :
    errors tool out err = errorsIn tool out.toList ++ errorsIn tool err.toList := by
  rw [errors, outputLines, List.filterMap_append]
  exact congrArg₂ _ (filterMap_ofPieces tool _) (filterMap_ofPieces tool _)

theorem errorsIn_append_feed (xs ys : List Char) :
    errorsIn tool (xs ++ '\n' :: ys) = errorsIn tool xs ++ errorsIn tool ys := by
  rw [errorsIn, Lines.pieces_append_feed, List.filterMap_append]
  rfl

theorem errorsIn_line {l : List Char} (h : '\n' ∉ l) :
    errorsIn tool l = (error? tool (Blank.trim l)).toList := by
  rw [errorsIn, Lines.pieces_of_not_mem h, List.filterMap_cons]
  cases error? tool (Blank.trim l) <;> rfl

theorem errorsIn_nil : errorsIn tool [] = [] := by
  have ht : Blank.trim [] = [] := rfl
  rw [errorsIn_line tool List.not_mem_nil, ht, error?_nil]
  rfl

theorem errorsIn_append_of_ended {a : String} (h : Ended a) (b : String) :
    errorsIn tool (a ++ b).toList = errorsIn tool a.toList ++ errorsIn tool b.toList := by
  rcases h with rfl | ⟨t, rfl⟩
  · rw [String.empty_append, String.toList_empty, errorsIn_nil, List.nil_append]
  · have hl : (t ++ "\n" ++ b).toList = t.toList ++ '\n' :: b.toList := by simp
    have ht : (t ++ "\n").toList = t.toList ++ '\n' :: [] := by simp
    rw [hl, ht, errorsIn_append_feed, errorsIn_append_feed, errorsIn_nil, List.append_nil]

namespace Padded

variable {l l' : List Char}

theorem not_mem_left (h : Padded l l') : '\n' ∉ l := by
  obtain ⟨hp, ht⟩ := h
  have hn : isMargin '\n' = false := by decide
  simp only [List.mem_append, not_or]
  refine ⟨⟨fun hm => ?_, ht⟩, fun hm => ?_⟩
  · exact absurd (hp '\n' (by simp [hm])) (by simp [hn])
  · exact absurd (hp '\n' (by simp [hm])) (by simp [hn])

theorem symm (h : Padded l l') : Padded l' l := by
  obtain ⟨hp, ht⟩ := h
  refine ⟨fun c hc => hp c ?_, ht⟩
  simp only [List.mem_append] at hc ⊢
  tauto

theorem trim_eq (h : Padded l l') : Blank.trim l = Blank.trim l' := by
  obtain @⟨before, before', after, after', text, hp, -⟩ := h
  have hb : ∀ c ∈ before ++ after ++ before' ++ after', Blank.isBlank c = true :=
    fun c hc => (Bool.and_eq_true_iff.mp (hp c hc)).1
  have hl : Blank.trim (before ++ text ++ after) = Blank.trim text :=
    Blank.trim_pad (fun c hc => hb c (by simp [hc])) (fun c hc => hb c (by simp [hc])) text
  have hr : Blank.trim (before' ++ text ++ after') = Blank.trim text :=
    Blank.trim_pad (fun c hc => hb c (by simp [hc])) (fun c hc => hb c (by simp [hc])) text
  rw [hl, hr]

theorem append_return (h : '\n' ∉ l) : Padded l (l ++ ['\r']) := by
  have hp := @Padded.mk [] [] [] ['\r'] l (List.all_eq_true.mp rfl) h
  simpa using hp

theorem refl (h : '\n' ∉ l) : Padded l l := by
  have hp := @Padded.mk [] [] [] [] l (List.forall_mem_nil _) h
  simpa using hp

theorem errorsIn_eq (h : Padded l l') : errorsIn tool l = errorsIn tool l' := by
  rw [errorsIn_line tool h.not_mem_left, errorsIn_line tool h.symm.not_mem_left, h.trim_eq]

end Padded

theorem Respaced.errorsIn_eq {cs cs' : List Char} (h : Respaced cs cs') :
    errorsIn tool cs = errorsIn tool cs' := by
  induction h with
  | last h => exact h.errorsIn_eq tool
  | line h _ ih => rw [errorsIn_append_feed, errorsIn_append_feed, h.errorsIn_eq tool, ih]

theorem returned_of_not_mem {l : List Char} (h : '\n' ∉ l) : returned l = l := by
  induction l with
  | nil => rfl
  | cons c cs ih =>
    have hc : c ≠ '\n' := fun hc => h (hc ▸ List.mem_cons_self)
    have hcs : '\n' ∉ cs := fun hcs => h (List.mem_cons_of_mem c hcs)
    have hr : returned (c :: cs) = c :: returned cs := by simp [returned, hc]
    rw [hr, ih hcs]

theorem returned_append_feed {l : List Char} (h : '\n' ∉ l) (rest : List Char) :
    returned (l ++ '\n' :: rest) = (l ++ ['\r']) ++ '\n' :: returned rest := by
  have hl := returned_of_not_mem h
  unfold returned at hl ⊢
  simp [hl]

theorem respaced_returned_join {ls : List (List Char)} (hn : ls ≠ []) (h : ∀ l ∈ ls, '\n' ∉ l) :
    Respaced (['\n'].intercalate ls) (returned (['\n'].intercalate ls)) := by
  induction ls with
  | nil => exact absurd rfl hn
  | cons l ls ih =>
    have hl : '\n' ∉ l := h l List.mem_cons_self
    cases ls with
    | nil =>
      rw [List.intercalate_singleton, returned_of_not_mem hl]
      exact .last (.refl hl)
    | cons l' ls =>
      have hr := ih (List.cons_ne_nil l' ls) fun x hx => h x (List.mem_cons_of_mem l hx)
      rw [List.intercalate_cons_cons, List.append_assoc, List.singleton_append,
        returned_append_feed hl]
      exact .line (.append_return hl) hr

theorem respaced_returned (cs : List Char) : Respaced cs (returned cs) := by
  have h := respaced_returned_join (Lines.pieces_ne_nil cs) fun _ => Lines.not_mem_of_mem_pieces
  rwa [Lines.intercalate_pieces] at h

theorem error?_of_mem_errors {out err e : String} (h : e ∈ errors .typescript out err) :
    error? .typescript (Blank.trim e.toList) = some e := by
  obtain ⟨line, hl, he⟩ := List.mem_filterMap.mp h
  have ht : Blank.trim line = line := by
    rcases List.mem_append.mp hl with hl | hl <;> obtain ⟨l, -, rfl⟩ := List.mem_map.mp hl <;>
      exact trim_trim l
  have hs : e.toList = line := by
    rw [← ((Typescript.error?_eq_some_iff line e).mp he).2, String.toList_ofList]
  rw [hs, ht, he]

theorem errors_joined (out err : String) :
    errors .typescript ("\n".intercalate (errors .typescript out err)) "" =
      errors .typescript out err := by
  rw [errors_eq .typescript _ "", String.toList_empty, errorsIn_nil, List.append_nil]
  by_cases hn : errors .typescript out err = []
  · rw [hn]
    exact errorsIn_nil .typescript
  · rw [errorsIn, Lines.pieces_text hn fun e he => not_mem_of_mem_errors he, List.filterMap_map]
    calc (errors .typescript out err).filterMap _
        = (errors .typescript out err).filterMap some :=
          List.filterMap_congr fun e he => error?_of_mem_errors he
      _ = errors .typescript out err := List.filterMap_some

theorem lineLocal_errors : LineLocal (errors tool) where
  streams out err := by
    rw [errors_eq, errors_eq tool out, errors_eq tool err, String.toList_empty, errorsIn_nil,
      List.append_nil, List.append_nil]
  append a b ha := by
    rw [errors_eq, errors_eq tool a, errors_eq tool b, errorsIn_append_of_ended tool ha,
      String.toList_empty, errorsIn_nil, List.append_nil, List.append_nil, List.append_nil]
  returns out err := by
    have hr : ∀ s, errorsIn tool (withReturns s).toList = errorsIn tool s.toList := by
      intro s
      rw [withReturns, String.toList_ofList]
      exact ((respaced_returned s.toList).errorsIn_eq tool).symm
    rw [errors_eq, errors_eq, hr, hr]
  respaced out out' err err' ho he := by
    rw [errors_eq, errors_eq, ho.errorsIn_eq tool, he.errorsIn_eq tool]
  line out err e he := ⟨not_blank_of_mem_errors he, not_mem_of_mem_errors he⟩

/-- Outputs are read line by line, whatever tool has written them, and what the type checker's
output comes to is read as itself. -/
theorem errors_lineLocal (tool : Tool) :
    LineLocal (errors tool) ∧
    ∀ out err, errors .typescript ("\n".intercalate (errors .typescript out err)) "" =
      errors .typescript out err :=
  ⟨lineLocal_errors tool, errors_joined⟩

theorem errors_lineLocal_returns :
    Ended "[warn] a.ts\n" ∧
      errors .prettier ("[warn] a.ts\n" ++ "[warn] b.ts") "" =
        errors .prettier "[warn] a.ts\n" "" ++ errors .prettier "[warn] b.ts" "" ∧
      Respaced "[warn] a.ts\n[warn] b.ts".toList "\t[warn] a.ts\r\n[warn] b.ts \r".toList ∧
      Respaced "".toList " ".toList ∧
      errors .prettier "[warn] a.ts\n[warn] b.ts" "" =
        errors .prettier "\t[warn] a.ts\r\n[warn] b.ts \r" " " := by
  have hl := (errors_lineLocal .prettier).1
  have he : Ended "[warn] a.ts\n" := .inr ⟨"[warn] a.ts", rfl⟩
  have ha : Padded "[warn] a.ts".toList "\t[warn] a.ts\r".toList :=
    @Padded.mk [] "\t".toList [] "\r".toList "[warn] a.ts".toList (List.all_eq_true.mp rfl)
      (by decide)
  have hb : Padded "[warn] b.ts".toList "[warn] b.ts \r".toList :=
    @Padded.mk [] [] [] " \r".toList "[warn] b.ts".toList (List.all_eq_true.mp rfl) (by decide)
  have hn : Padded "".toList " ".toList :=
    @Padded.mk [] [] [] " ".toList "".toList (List.all_eq_true.mp rfl) (by decide)
  have hr : Respaced "[warn] a.ts\n[warn] b.ts".toList
      "\t[warn] a.ts\r\n[warn] b.ts \r".toList := .line ha (.last hb)
  exact ⟨he, hl.append _ _ he, hr, .last hn, hl.respaced _ _ _ _ hr (.last hn)⟩

end QualityGate.Findings
