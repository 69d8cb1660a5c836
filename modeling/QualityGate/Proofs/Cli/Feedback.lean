import QualityGate.Proofs.Cli.Agreement
import QualityGate.Proofs.Json.Compact

namespace QualityGate

open Text

/-- The narrations there are, one for each kind of step. A count of issues is a machine word. -/
inductive Narration.Standard : Narration → Prop
  | started (correlationId : String) : Standard (.started correlationId)
  | processing (fileName : String) : Standard (.processing fileName)
  | invalidPayload (error : String) : Standard (.invalidPayload error)
  | checksPassed (file : String) : Standard (.checksPassed file)
  | decided (action : Action) {issueCount : Nat} (h : issueCount < 2 ^ 64) :
      Standard (.decided action issueCount)
  | autoFixing (file : String) : Standard (.autoFixing file)
  | autoFixed (file : String) : Standard (.autoFixed file)
  | autoFixFailed (file : String) : Standard (.autoFixFailed file)
  | hookError (error correlationId : String) : Standard (.hookError error correlationId)

/-- A line that holds an object, and nothing of the next line. -/
def IsObjectLine (line : String) : Prop :=
  '\n' ∉ line.toList ∧ ∃ members, Json.parse line = .ok (.object members)

/-- The text is made of lines with an object each, and of a blocking text if there is more. -/
structure SplitsInto (text : String) (lines : List String) (rest : String) : Prop where
  text_eq : text = String.join (lines.map (· ++ "\n")) ++ rest
  object : ∀ line ∈ lines, IsObjectLine line
  blocking : rest = "" ∨ ∃ m : BlockingMessage, rest = m.render

namespace Narration

theorem plain_feedbackOf (feedback : String) (others : List (String × String)) :
    (feedbackOf feedback others).Plain := by
  refine Json.plain_ofMembers fun m hm => ?_
  rcases List.mem_cons.mp hm with rfl | hm
  · exact .string feedback
  · obtain ⟨o, -, rfl⟩ := List.mem_map.mp hm
    exact .string o.2

theorem plain_decided (action : Action) {issueCount : Nat} (h : issueCount < 2 ^ 64) :
    (decided action issueCount).feedback.Plain := by
  refine Json.plain_ofMembers fun m hm => ?_
  simp only [List.mem_cons, List.not_mem_nil, or_false] at hm
  rcases hm with rfl | rfl | rfl
  · exact .string _
  · exact .string _
  · exact .natural h

variable {n : Narration}

theorem Standard.plain (h : Standard n) : n.feedback.Plain := by
  cases h with
  | decided action h => exact plain_decided action h
  | _ => exact plain_feedbackOf _ _

theorem Standard.exists_object (h : Standard n) : ∃ members, n.feedback = .object members := by
  cases h with
  | _ => exact ⟨_, rfl⟩

theorem Standard.parse_line (h : Standard n) : Json.parse n.line = .ok n.feedback :=
  Json.parse_compact h.plain

theorem Standard.isObjectLine (h : Standard n) : IsObjectLine n.line := by
  obtain ⟨members, hm⟩ := h.exists_object
  refine ⟨h.plain.not_mem_compact, members, ?_⟩
  rw [h.parse_line, hm]

end Narration

theorem IsObjectLine.exists_cons {line : String} (h : IsObjectLine line) :
    ∃ c cs, line.toList = c :: cs ∧ c ≠ '\n' := by
  obtain ⟨hn, members, hp⟩ := h
  cases hl : line.toList with
  | nil =>
    have he : line = "" := String.toList_eq_nil_iff.mp hl
    rw [he] at hp
    cases hp
  | cons c cs =>
    refine ⟨c, cs, rfl, ?_⟩
    rintro rfl
    exact hn (by simp [hl])

theorem BlockingMessage.head_render (m : BlockingMessage) : m.render.toList.head? = some '\n' := by
  have hr : m.renderedLines = "" :: header :: m.renderedLines.drop 2 := rfl
  rw [render, hr, String.intercalate_cons_cons]
  simp

namespace SplitsInto

variable {text rest rest' : String} {lines lines' : List String}

theorem head_rest (h : SplitsInto text lines rest) : ∀ c ∈ rest.toList.head?, c = '\n' := by
  intro c hc
  rcases h.blocking with rfl | ⟨m, rfl⟩
  · cases hc
  · rw [m.head_render] at hc
    exact (Option.some.inj hc).symm

theorem toList_cons {line : String} (h : SplitsInto text (line :: lines) rest) :
    text.toList =
      line.toList ++ '\n' :: (String.join (lines.map (· ++ "\n")) ++ rest).toList := by
  rw [h.text_eq]
  simp

theorem tail {line : String} (h : SplitsInto text (line :: lines) rest) :
    SplitsInto (String.join (lines.map (· ++ "\n")) ++ rest) lines rest :=
  ⟨rfl, fun l hl => h.object l (List.mem_cons_of_mem line hl), h.blocking⟩

theorem not_nil_cons {line : String} (h : SplitsInto text [] rest)
    (h' : SplitsInto text (line :: lines') rest') : False := by
  obtain ⟨c, cs, hc, hn⟩ := (h'.object line List.mem_cons_self).exists_cons
  have ht : text = rest := by
    rw [h.text_eq]
    exact String.empty_append
  have hr := h'.toList_cons
  rw [ht, hc, List.cons_append] at hr
  exact hn (h.head_rest c (by rw [hr]; rfl))

theorem unique (h : SplitsInto text lines rest) (h' : SplitsInto text lines' rest') :
    lines' = lines ∧ rest' = rest := by
  induction lines generalizing text lines' with
  | nil =>
    cases lines' with
    | nil =>
      have hr := h.text_eq.symm.trans h'.text_eq
      simpa [eq_comm] using hr
    | cons line' lines' => exact absurd h' h.not_nil_cons
  | cons line lines ih =>
    cases lines' with
    | nil => exact absurd h h'.not_nil_cons
    | cons line' lines' =>
      have hp := h.toList_cons.symm.trans h'.toList_cons
      have hn := (h.object line List.mem_cons_self).1
      have hn' := (h'.object line' List.mem_cons_self).1
      -- neither line holds a line feed, so the first one in the text ends both
      obtain ⟨hl, hr⟩ := Lines.append_feed_inj hn hn' hp
      have ht := h'.tail
      rw [← String.toList_inj.mp hr] at ht
      obtain ⟨hls, hrest⟩ := ih h.tail ht
      rw [String.toList_inj.mp hl, hls]
      exact ⟨rfl, hrest⟩

end SplitsInto

namespace HookReport

variable {r : HookReport}

theorem splitsInto_stderr (h : ∀ n ∈ r.narration, n.Standard) :
    SplitsInto (Output.ofReport true r).stderr (r.narration.map Narration.line)
      (r.blockingText.getD "") := by
  refine ⟨?_, ?_, ?_⟩
  · rw [Output.stderr_ofReport, fedBack, if_pos rfl, List.map_map]
    rfl
  · intro line hl
    obtain ⟨n, hn, rfl⟩ := List.mem_map.mp hl
    exact (h n hn).isObjectLine
  · cases hb : r.blocking with
    | none => exact .inl (by rw [blockingText, hb, Option.map_none, Option.getD_none])
    | some m => exact .inr ⟨m, by rw [blockingText, hb, Option.map_some, Option.getD_some]⟩

/-- Standard error can be split in one way, which is into the feedback of each narration and the
blocking text. -/
theorem stderr_splits (h : ∀ n ∈ r.narration, n.Standard) :
    (∀ lines rest, SplitsInto (Output.ofReport true r).stderr lines rest ↔
      lines = r.narration.map (fun n => n.feedback.compact) ∧ rest = r.blockingText.getD "") ∧
    ∀ n ∈ r.narration, '\n' ∉ n.feedback.compact.toList ∧
      (∃ members, n.feedback = .object members) ∧
      Json.parse n.feedback.compact = .ok n.feedback := by
  have hs := splitsInto_stderr h
  refine ⟨fun lines rest => ⟨hs.unique, ?_⟩, fun n hn => ?_⟩
  · rintro ⟨rfl, rfl⟩
    exact hs
  · have hp := h n hn
    exact ⟨hp.plain.not_mem_compact, hp.exists_object, hp.parse_line⟩

def hostile : HookReport where
  status := .qualityIssues
  narration := [.hookError "\x7b\x22error\x22:1\x7d\n" "\x01", .decided .reportOnly 2]
  blocking := some ⟨"\x7b\x7d\nno-var", some "\x7b\x7d"⟩
  decision := none

def hostileLines : List String :=
  ["\x7b\x22correlationId\x22:\x22\\u0001\x22," ++
      "\x22error\x22:\x22\x7b\\\x22error\\\x22:1\x7d\\n\x22," ++
      "\x22feedback\x22:\x22Hook error\x22\x7d",
    "\x7b\x22action\x22:\x22REPORT_ONLY\x22," ++
      "\x22feedback\x22:\x22Autopilot decision\x22,\x22issueCount\x22:2\x7d"]

theorem stderr_splits_hostile :
    (∀ n ∈ hostile.narration, n.Standard) ∧
      ∀ lines rest, SplitsInto (Output.ofReport true hostile).stderr lines rest ↔
        lines = hostileLines ∧
          rest = (BlockingMessage.mk "\x7b\x7d\nno-var" (some "\x7b\x7d")).render := by
  have hn : ∀ n ∈ hostile.narration, n.Standard :=
    List.forall_mem_cons.mpr
      ⟨.hookError _ _, List.forall_mem_singleton.mpr (.decided _ (by decide))⟩
  have hl : hostile.narration.map (fun n => n.feedback.compact) = hostileLines := by
    decide +kernel
  have hb : hostile.blockingText.getD "" = BlockingMessage.render _ := Option.getD_some
  refine ⟨hn, fun lines rest => ?_⟩
  rw [(stderr_splits hn).1 lines rest, hl, hb]

end HookReport

end QualityGate
