import QualityGate.Diagnostic.Policy
import QualityGate.Proofs.Diagnostic.Rule
import QualityGate.Proofs.Findings.Eslint
import Mathlib.Data.List.Infix

namespace QualityGate.Findings.Eslint

open Text

theorem not_positioned_of_not_mem {cs : List Char} (h : ':' ∉ cs) : ¬ Positioned cs := by
  rintro ⟨a, l, c, b, -, -, rfl⟩
  exact h (by simp)

namespace Printed

variable {f : Printed} {rule : List Char}

/-- The error of a finding up to the parenthesis that opens before the rule. -/
def beforeRule (f : Printed) : List Char :=
  f.line ++ ':' :: f.column ++ ' ' :: f.message ++ [' ']

theorem chars_of_rule (hr : f.rule = some rule) :
    f.toFinding.chars = f.beforeRule ++ '(' :: rule ++ [')'] := by
  simp [Finding.chars, beforeRule, hr]

theorem not_mem_position (f : Printed) : '(' ∉ f.line ++ ':' :: f.column ++ [' '] := by
  have hl : '(' ∉ f.line := f.line_numeral.not_mem (by decide)
  have hc : '(' ∉ f.column := f.column_numeral.not_mem (by decide)
  simp [hl, hc]

theorem closed_beforeRule (f : Printed) : Rule.Closed f.beforeRule ↔ Rule.Closed f.message := by
  have he : f.beforeRule = f.line ++ ':' :: f.column ++ [' '] ++ (f.message ++ [' ']) := by
    simp [beforeRule]
  rw [he, Rule.closed_append_of_not_mem _ f.not_mem_position,
    Rule.closed_concat_iff _ (by decide) (by decide)]

theorem trailingChars?_of_closed (hr : f.rule = some rule) (hc : ')' ∉ rule)
    (h : Rule.Closed f.message) : Rule.trailingChars? f.toFinding.chars = some rule := by
  rw [chars_of_rule hr, Rule.trailingChars?_eq_some_iff]
  exact ⟨f.rule_ne rule hr, hc, f.beforeRule, rfl, f.closed_beforeRule.mpr h⟩

theorem trailingChars?_of_open (hr : f.rule = some rule) (hc : ')' ∉ rule) {a b : List Char}
    (hm : f.message = a ++ '(' :: b) (ha : Rule.Closed a) (hb : ')' ∉ b) :
    Rule.trailingChars? f.toFinding.chars = some (b ++ ' ' :: '(' :: rule) := by
  rw [chars_of_rule hr, Rule.trailingChars?_eq_some_iff]
  refine ⟨by simp, by simp [hb, hc], f.line ++ ':' :: f.column ++ [' '] ++ a, ?_, ?_⟩
  · simp [beforeRule, hm]
  · exact (Rule.closed_append_of_not_mem a f.not_mem_position).mpr ha

theorem classify_of_trailing (p : Policy) {error read : List Char}
    (h : Rule.trailingChars? error = some read) :
    p.classify .eslint (String.ofList error) =
      (String.ofList read, p.ruleFixable (String.ofList read)) := by
  have ht : Rule.trailing? (String.ofList error) = some (String.ofList read) := by
    rw [Rule.trailing?, String.toList_ofList, h, Option.map_some]
  simp only [Policy.classify, ht, Option.getD_some]

/-- The one error of a printed finding is classified by the rule that was printed exactly if the
message closes every parenthesis that it opens. Otherwise the text from the first open one on is
taken for the rule. -/
theorem classify_error (f : Printed) (rule : List Char) (hr : f.rule = some rule)
    (hc : ')' ∉ rule) (p : Policy) :
    ∃ error, errors Tool.eslint f.text "" = [error] ∧
      (p.classify .eslint error = (String.ofList rule, p.ruleFixable (String.ofList rule)) ↔
        Rule.Closed f.message) ∧
      ∀ a b, f.message = a ++ '(' :: b → Rule.Closed a → ')' ∉ b →
        p.classify .eslint error = (String.ofList (b ++ ' ' :: '(' :: rule),
          p.ruleFixable (String.ofList (b ++ ' ' :: '(' :: rule))) := by
  refine ⟨String.ofList f.toFinding.chars, f.errors_text, ⟨fun h => ?_, fun h => ?_⟩, ?_⟩
  · by_contra hn
    obtain ⟨a, b, hm, ha, hb⟩ := Rule.exists_of_not_closed hn
    rw [classify_of_trailing p (trailingChars?_of_open hr hc hm ha hb)] at h
    have he : b ++ ' ' :: '(' :: rule = rule := String.ofList_injective (Prod.mk.inj h).1
    have hlen := congrArg List.length he
    simp at hlen
    omega
  · exact classify_of_trailing p (trailingChars?_of_closed hr hc h)
  · intro a b hm ha hb
    exact classify_of_trailing p (trailingChars?_of_open hr hc hm ha hb)

def newlineAfterParen : Printed where
  path := "/srv/app/src/form.ts".toList
  line := "1".toList
  column := "13".toList
  message := "Unexpected newline after '('.".toList
  severity := .error
  rule := some "function-paren-newline".toList
  path_ne := by decide
  path_head := by decide
  path_line := by decide
  path_position := not_positioned_of_not_mem (by decide)
  line_ne := by decide
  line_digits := List.all_eq_true.mp rfl
  column_ne := by decide
  column_digits := List.all_eq_true.mp rfl
  message_ne := by decide
  message_line := by decide
  message_opening := by
    intro s
    cases s <;> decide
  rule_ne := by
    rintro r ⟨⟩
    decide
  rule_line := by
    rintro r ⟨⟩
    decide

def byHand : Policy :=
  ⟨true, [], ["function-paren-newline"], by simp⟩

theorem classify_error_newlineAfterParen :
    newlineAfterParen.rule = some "function-paren-newline".toList ∧
      ')' ∉ "function-paren-newline".toList ∧
      ∃ error, errors Tool.eslint newlineAfterParen.text "" = [error] ∧
        ¬ Rule.Closed newlineAfterParen.message ∧
        byHand.classify .eslint error = ("'. (function-paren-newline", true) := by
  have hc : ')' ∉ "function-paren-newline".toList := by decide
  obtain ⟨error, he, -, hread⟩ := classify_error newlineAfterParen _ rfl hc byHand
  have hm : newlineAfterParen.message = "Unexpected newline after '".toList ++ '(' :: "'.".toList :=
    by decide
  have hcl := hread _ _ hm (by decide) (by decide)
  exact ⟨rfl, hc, error, he, by decide, hcl.trans (by decide)⟩

theorem not_all_classified :
    ¬ ∀ (f : Printed) (rule : List Char), f.rule = some rule → '(' ∉ rule → ')' ∉ rule →
      ∀ p : Policy, ∃ error, errors Tool.eslint f.text "" = [error] ∧
        p.classify .eslint error = (String.ofList rule, p.ruleFixable (String.ofList rule)) := by
  intro h
  obtain ⟨error, he, hcl⟩ :=
    h newlineAfterParen "function-paren-newline".toList rfl (by decide) (by decide) byHand
  rw [errors_text] at he
  cases he
  exact absurd hcl (by decide)

end Printed

end QualityGate.Findings.Eslint
