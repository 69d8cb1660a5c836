import Mathlib.Data.List.DropRight
import QualityGate.Diagnostic.Policy
import QualityGate.Proofs.Diagnostic.Rule

namespace QualityGate

namespace Rule

/-- The text stands in parentheses at the end of the message. It has at least one character and no
closing parenthesis. -/
structure Trails (rule message : String) : Prop where
  ne : rule ≠ ""
  not_closing : ')' ∉ rule.toList
  exists_front : ∃ front, message = front ++ "(" ++ rule ++ ")"

/-- The text trails the message, and so does none that is longer. -/
def Longest (rule message : String) : Prop :=
  Trails rule message ∧ ∀ other, Trails other message → other.length ≤ rule.length

/-- After the last parenthesis that closes, none opens. -/
def Shut (front : String) : Prop :=
  '(' ∉ front.toList.rtakeWhile (· ≠ ')')

variable {rule message : String}

theorem trails_iff : Trails rule message ↔ rule.toList ≠ [] ∧ ')' ∉ rule.toList ∧
    ∃ front, message.toList = front ++ '(' :: rule.toList ++ [')'] := by
  constructor
  · rintro ⟨hn, hc, front, rfl⟩
    exact ⟨by simpa using hn, hc, front.toList, by simp⟩
  · rintro ⟨hn, hc, front, hm⟩
    refine ⟨by simpa using hn, hc, String.ofList front, ?_⟩
    rw [← String.toList_inj, hm]
    simp

theorem closed_iff_rtakeWhile (cs : List Char) :
    Closed cs ↔ '(' ∉ cs.rtakeWhile (· ≠ ')') := by
  obtain ⟨before, tail, rfl, ht, hb⟩ := exists_tail cs
  have hr : (before ++ tail).rtakeWhile (· ≠ ')') = tail := by
    rw [List.rtakeWhile, takeWhile_reverse ht hb, List.reverse_reverse]
  rw [closed_append_iff ht hb, hr]

theorem Closed.mem {before after : List Char} (h : Closed (before ++ '(' :: after)) :
    ')' ∈ after := by
  induction before with
  | nil => exact h.1 rfl
  | cons c cs ih => exact ih h.2

theorem length_le_of_closed {front chars front' chars' : List Char} (h : Closed front)
    (hc : ')' ∉ chars') (he : front ++ '(' :: chars = front' ++ '(' :: chars') :
    chars'.length ≤ chars.length := by
  rcases List.append_eq_append_iff.mp he with ⟨t, rfl, ht⟩ | ⟨t, rfl, ht⟩
  · have hl := congrArg List.length ht
    simp only [List.length_append, List.length_cons] at hl
    omega
  · cases t with
    | nil =>
      cases ht
      exact le_refl _
    | cons c t =>
      cases ht
      exact absurd (List.mem_append_left _ h.mem) hc

theorem exists_closed (front : List Char) {chars : List Char} (hn : chars ≠ []) (hc : ')' ∉ chars) :
    ∃ front' chars', front ++ '(' :: chars = front' ++ '(' :: chars' ∧ chars' ≠ [] ∧
      ')' ∉ chars' ∧ Closed front' := by
  by_cases h : Closed front
  · exact ⟨front, chars, rfl, hn, hc, h⟩
  · obtain ⟨front', t, rfl, hf, ht⟩ := exists_of_not_closed h
    exact ⟨front', t ++ '(' :: chars, by simp, by simp, by simp [ht, hc], hf⟩

theorem trailing?_eq_some_iff_closed : trailing? message = some rule ↔
    rule.toList ≠ [] ∧ ')' ∉ rule.toList ∧
      ∃ front, message.toList = front ++ '(' :: rule.toList ++ [')'] ∧ Closed front := by
  rw [← trailingChars?_eq_some_iff, trailing?, Option.map_eq_some_iff]
  constructor
  · rintro ⟨cs, hcs, rfl⟩
    rw [hcs, String.toList_ofList]
  · intro h
    exact ⟨rule.toList, h, String.ofList_toList⟩

theorem trailing?_eq_some_iff_shut : trailing? message = some rule ↔
    rule ≠ "" ∧ ')' ∉ rule.toList ∧ ∃ front, message = front ++ "(" ++ rule ++ ")" ∧
      Shut front := by
  rw [trailing?_eq_some_iff_closed]
  constructor
  · rintro ⟨hn, hc, front, hm, hf⟩
    refine ⟨by simpa using hn, hc, String.ofList front, ?_, ?_⟩
    · rw [← String.toList_inj, hm]
      simp
    · rw [Shut, String.toList_ofList]
      exact (closed_iff_rtakeWhile front).mp hf
  · rintro ⟨hn, hc, front, rfl, hf⟩
    exact ⟨by simpa using hn, hc, front.toList, by simp, (closed_iff_rtakeWhile _).mpr hf⟩

theorem exists_trailing (h : Trails rule message) : ∃ r, trailing? message = some r := by
  obtain ⟨hn, hc, front, hm⟩ := trails_iff.mp h
  obtain ⟨front', chars, he, hn', hc', hf⟩ := exists_closed front hn hc
  refine ⟨String.ofList chars, trailing?_eq_some_iff_closed.mpr ?_⟩
  rw [String.toList_ofList]
  exact ⟨hn', hc', front', by rw [hm, he], hf⟩

theorem longest_of_trailing (h : trailing? message = some rule) : Longest rule message := by
  obtain ⟨hn, hc, front, hm, hf⟩ := trailing?_eq_some_iff_closed.mp h
  refine ⟨trails_iff.mpr ⟨hn, hc, front, hm⟩, fun other ho => ?_⟩
  obtain ⟨-, hc', front', hm'⟩ := trails_iff.mp ho
  rw [hm] at hm'
  have hl := length_le_of_closed hf hc' (List.append_cancel_right hm')
  rwa [String.length_toList, String.length_toList] at hl

theorem Longest.unique {rule' : String} (h : Longest rule message) (h' : Longest rule' message) :
    rule = rule' := by
  obtain ⟨-, -, front, hm⟩ := trails_iff.mp h.1
  obtain ⟨-, -, front', hm'⟩ := trails_iff.mp h'.1
  have hl : rule.length = rule'.length := Nat.le_antisymm (h'.2 rule h.1) (h.2 rule' h'.1)
  rw [hm] at hm'
  have hc : ('(' :: rule.toList).length = ('(' :: rule'.toList).length := by
    rw [List.length_cons, List.length_cons, String.length_toList, String.length_toList, hl]
  have he := (List.append_inj' (List.append_cancel_right hm') hc).2
  exact String.toList_inj.mp (List.cons.inj he).2

theorem trailing?_eq_some_iff_longest : trailing? message = some rule ↔ Longest rule message := by
  constructor
  · exact longest_of_trailing
  · intro h
    obtain ⟨r, hr⟩ := exists_trailing h.1
    rw [hr, h.unique (longest_of_trailing hr)]

theorem trailing?_eq_none_iff : trailing? message = none ↔ ∀ rule, ¬ Trails rule message := by
  constructor
  · intro h rule ht
    obtain ⟨r, hr⟩ := exists_trailing ht
    rw [h] at hr
    cases hr
  · intro h
    cases ht : trailing? message with
    | none => rfl
    | some rule => exact absurd (longest_of_trailing ht).1 (h rule)

theorem fallback_of_none (h : ∀ rule, ¬ Trails rule message) (p : Policy) :
    p.classify .eslint message = (eslintFallback, p.ruleFixable eslintFallback) := by
  rw [Policy.classify, trailing?_eq_none_iff.mpr h]
  rfl

theorem rule_of_longest (h : Longest rule message) (p : Policy) :
    p.classify .eslint message = (rule, p.ruleFixable rule) := by
  rw [Policy.classify, trailing?_eq_some_iff_longest.mpr h]
  rfl

theorem classify_ne (p : Policy) (tool : Tool) (message : String) :
    (p.classify tool message).1 ≠ "" := by
  cases tool with
  | prettier => exact (by decide : Rule.prettier ≠ "")
  | eslint =>
    by_cases h : ∃ rule, Longest rule message
    · obtain ⟨rule, h⟩ := h
      rw [rule_of_longest h]
      exact h.1.ne
    · have hn : ∀ rule, ¬ Trails rule message := by
        intro rule ht
        obtain ⟨r, hr⟩ := exists_trailing ht
        exact h ⟨r, longest_of_trailing hr⟩
      rw [fallback_of_none hn]
      exact (by decide : eslintFallback ≠ "")
  | typescript => exact (by decide : Rule.typescript ≠ "")

/-- A message of the linter names the longest text that stands in parentheses at its end, and that
is its rule. Without such a text it has the rule for messages that name none. -/
theorem trailing?_longest (message : String) :
    (∀ rule, (trailing? message = some rule ↔ Longest rule message) ∧
      (trailing? message = some rule ↔ rule ≠ "" ∧ ')' ∉ rule.toList ∧
        ∃ front, message = front ++ "(" ++ rule ++ ")" ∧ Shut front)) ∧
    (trailing? message = none ↔ ∀ rule, ¬ Trails rule message) ∧
    ∀ p : Policy,
      (∀ rule, Longest rule message → p.classify .eslint message = (rule, p.ruleFixable rule)) ∧
      ((∀ rule, ¬ Trails rule message) →
        p.classify .eslint message = (eslintFallback, p.ruleFixable eslintFallback)) ∧
      (Text.Blank.isBlankText message = true →
        p.classify .eslint message = (eslintFallback, p.ruleFixable eslintFallback)) ∧
      ∀ tool, (p.classify tool message).1 ≠ "" := by
  refine ⟨fun rule => ⟨trailing?_eq_some_iff_longest, trailing?_eq_some_iff_shut⟩,
    trailing?_eq_none_iff, fun p => ⟨fun rule h => rule_of_longest h p,
      fun h => fallback_of_none h p, fun h => ?_, fun tool => classify_ne p tool message⟩⟩
  exact fallback_of_none (trailing?_eq_none_iff.mp (trailing?_of_blank h)) p

theorem trailing?_longest_nested :
    Longest "hint (no-var" "Use (let) or const (hint (no-var)" ∧
      Policy.default.classify .eslint "Use (let) or const (hint (no-var)" =
        ("hint (no-var", true) ∧
      (∀ rule, ¬ Trails rule "Use ()") ∧
      Policy.default.classify .eslint "Use ()" = ("eslint-error", true) ∧
      Text.Blank.isBlankText " \t" = true ∧
      Policy.default.classify .eslint " \t" = ("eslint-error", true) := by
  obtain ⟨hsome, -, hrule⟩ := trailing?_longest "Use (let) or const (hint (no-var)"
  have hl := (hsome "hint (no-var").1.mp (by decide)
  obtain ⟨-, hnone, hfall⟩ := trailing?_longest "Use ()"
  have hn := hnone.mp (by decide)
  have hb : Text.Blank.isBlankText " \t" = true := by decide
  refine ⟨hl, (hrule .default).1 _ hl, hn, (hfall .default).2.1 hn, hb, ?_⟩
  exact ((trailing?_longest " \t").2.2 .default).2.2.1 hb

end Rule
end QualityGate
