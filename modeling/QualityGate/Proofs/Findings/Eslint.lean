import QualityGate.Findings.Errors
import QualityGate.Proofs.Findings.Lines
import Mathlib.Data.List.TakeDrop
import Mathlib.Data.List.TakeWhile

namespace QualityGate.Findings.Eslint

open Text Text.Digits

def Numeral (cs : List Char) : Prop :=
  cs ≠ [] ∧ ∀ c ∈ cs, isDecimal c = true

/-- A line and a column stand somewhere in the text, as they do between a path and a message. -/
def Positioned (cs : List Char) : Prop :=
  ∃ before line column after, Numeral line ∧ Numeral column ∧
    cs = before ++ ':' :: line ++ ':' :: column ++ ':' :: ' ' :: after

inductive Severity where
  | error
  | warning
deriving DecidableEq, Repr

def Severity.opening : Severity → List Char
  | .error => " [Error".toList
  | .warning => " [Warning".toList

/-- A finding as the linter prints it. -/
structure Printed extends Finding where
  path : List Char
  severity : Severity
  path_ne : path ≠ []
  path_head : Blank.isBlank (path.head path_ne) = false
  path_line : '\n' ∉ path
  path_position : ¬ Positioned path
  line_ne : line ≠ []
  line_digits : ∀ c ∈ line, c.isDigit = true
  column_ne : column ≠ []
  column_digits : ∀ c ∈ column, c.isDigit = true
  message_ne : message ≠ []
  message_line : '\n' ∉ message
  message_opening : ∀ s : Severity, ¬ s.opening <:+: message
  rule_ne : ∀ r ∈ rule, r ≠ []
  rule_line : ∀ r ∈ rule, '\n' ∉ r

namespace Printed

/-- What stands between the severity and the closing bracket. -/
def ruleChars (f : Printed) : List Char :=
  match f.rule with
  | some rule => '/' :: rule
  | none => []

def brackets (f : Printed) : List Char :=
  f.severity.opening ++ f.ruleChars ++ [']']

def chars (f : Printed) : List Char :=
  f.path ++ ':' :: f.line ++ ':' :: f.column ++ ':' :: ' ' :: f.message ++ f.brackets

def text (f : Printed) : String :=
  String.ofList f.chars

end Printed

theorem isDecimal_of_isDigit {c : Char} (h : c.isDigit = true) : isDecimal c = true := by
  simp only [Char.isDigit, Bool.and_eq_true, decide_eq_true_eq] at h
  refine List.any_eq_true.mpr ⟨0x30, List.mem_cons_self, ?_⟩
  have hl : (48 : Nat) ≤ c.toNat := h.1
  have hr : c.toNat ≤ 57 := h.2
  simp only [Bool.and_eq_true, decide_eq_true_eq]
  omega

theorem numeral_of_digits {cs : List Char} (hn : cs ≠ []) (h : ∀ c ∈ cs, c.isDigit = true) :
    Numeral cs :=
  ⟨hn, fun c hc => isDecimal_of_isDigit (h c hc)⟩

theorem Numeral.not_mem {cs : List Char} (h : Numeral cs) {c : Char} (hc : isDecimal c = false) :
    c ∉ cs := by
  intro hm
  rw [h.2 c hm] at hc
  cases hc

theorem Numeral.append_ne_cons {cs : List Char} (h : Numeral cs) {c : Char}
    (hc : isDecimal c = false) (xs ys : List Char) : cs ++ xs ≠ c :: ys := by
  intro he
  cases cs with
  | nil => exact h.1 rfl
  | cons d ds =>
    cases he
    exact h.not_mem hc List.mem_cons_self

theorem number?_eq_some_iff (cs digits rest : List Char) :
    number? cs = some (digits, rest) ↔ Numeral digits ∧ cs = digits ++ ':' :: rest := by
  rw [number?, List.span_eq_takeWhile_dropWhile]
  constructor
  · intro h
    split at h
    · cases h
    · next d r hn he =>
      cases h
      obtain ⟨ht, hr⟩ := Prod.mk.inj he
      refine ⟨⟨hn, fun c hc => ?_⟩, ?_⟩
      · rw [← ht] at hc
        exact List.mem_takeWhile_imp hc
      · rw [← ht, ← hr, List.takeWhile_append_dropWhile]
    · cases h
  · rintro ⟨⟨hn, hd⟩, rfl⟩
    have hc : isDecimal ':' = false := by decide
    rw [List.takeWhile_append_of_pos hd, List.dropWhile_append_of_pos hd,
      List.takeWhile_cons_of_neg (by simp [hc]), List.dropWhile_cons_of_neg (by simp [hc]),
      List.append_nil]
    cases digits with
    | nil => exact absurd rfl hn
    | cons d ds => rfl

theorem position?_eq_some_iff (cs line column rest : List Char) :
    position? cs = some (line, column, rest) ↔ Numeral line ∧ Numeral column ∧ rest ≠ [] ∧
      cs = line ++ ':' :: column ++ ':' :: ' ' :: rest := by
  constructor
  · intro h
    unfold position? at h
    split at h
    · cases h
    · next l r hl =>
      obtain ⟨hn, rfl⟩ := (number?_eq_some_iff ..).mp hl
      split at h
      · next c t hc =>
        obtain ⟨hm, rfl⟩ := (number?_eq_some_iff ..).mp hc
        split at h
        · cases h
        · next ht =>
          cases h
          exact ⟨hn, hm, by simpa using ht, by simp⟩
      · cases h
  · rintro ⟨hl, hc, hr, rfl⟩
    have hfirst : number? (line ++ ':' :: column ++ ':' :: ' ' :: rest) =
        some (line, column ++ ':' :: ' ' :: rest) :=
      (number?_eq_some_iff ..).mpr ⟨hl, by simp⟩
    have hsecond : number? (column ++ ':' :: ' ' :: rest) = some (column, ' ' :: rest) :=
      (number?_eq_some_iff ..).mpr ⟨hc, rfl⟩
    simp only [position?, hfirst, hsecond, if_neg (mt List.isEmpty_iff.mp hr)]

theorem Numeral.split_colon {digits xs ys zs : List Char} (hd : Numeral digits)
    (h : xs ++ ':' :: ys = digits ++ ':' :: zs) :
    (xs = digits ∧ ys = zs) ∨ ∃ t, xs = digits ++ ':' :: t ∧ t ++ ':' :: ys = zs := by
  have hn : ':' ∉ digits := hd.not_mem (by decide)
  rcases List.append_eq_append_iff.mp h with ⟨t, rfl, ht⟩ | ⟨t, rfl, ht⟩
  · cases t with
    | nil => exact .inl ⟨by simp, by simpa using ht⟩
    | cons c t =>
      cases ht
      exact absurd (by simp) hn
  · cases t with
    | nil => exact .inl ⟨by simp, by simpa using ht.symm⟩
    | cons c t =>
      cases ht
      exact .inr ⟨t, rfl, rfl⟩

theorem position?_of_not_positioned {t line column : List Char} (rest : List Char)
    (ht : ¬ Positioned (':' :: t)) (hl : Numeral line) (hc : Numeral column) :
    position? (t ++ ':' :: line ++ ':' :: column ++ rest) = none := by
  rw [Option.eq_none_iff_forall_ne_some]
  rintro ⟨l, c, r⟩ h
  obtain ⟨hl', hc', -, he⟩ := (position?_eq_some_iff ..).mp h
  simp only [List.append_assoc, List.cons_append] at he
  have hs : isDecimal ' ' = false := by decide
  rcases hl'.split_colon he with ⟨-, hr⟩ | ⟨u, rfl, hr⟩
  · rcases hc'.split_colon hr with ⟨-, hb⟩ | ⟨v, hv, -⟩
    · exact hc.append_ne_cons hs _ _ hb
    · exact hl.not_mem (by decide) (hv ▸ List.mem_append_right c List.mem_cons_self)
  · rcases hc'.split_colon hr with ⟨-, hb⟩ | ⟨v, rfl, hb⟩
    · exact hl.append_ne_cons hs _ _ hb
    · cases v with
      | nil => cases hb
      | cons d v =>
        cases hb
        exact ht ⟨[], l, c, v, hl', hc', by simp⟩

theorem Positioned.append_left {ys : List Char} (xs : List Char) (h : Positioned ys) :
    Positioned (xs ++ ys) := by
  obtain ⟨a, l, c, b, hl, hc, rfl⟩ := h
  exact ⟨xs ++ a, l, c, b, hl, hc, by simp⟩

theorem afterPath?_append {pre line column : List Char} (rest : List Char)
    (hp : ¬ Positioned pre) (hl : Numeral line) (hc : Numeral column) :
    afterPath? (pre ++ ':' :: line ++ ':' :: column ++ rest) =
      afterPath? (':' :: line ++ ':' :: column ++ rest) := by
  induction pre with
  | nil => rfl
  | cons c cs ih =>
    have hn : (if c = ':' then position? (cs ++ ':' :: line ++ ':' :: column ++ rest) else none) =
        none := by
      split
      · next hcolon =>
        subst hcolon
        exact position?_of_not_positioned rest hp hl hc
      · rfl
    have hs : ¬ Positioned cs := fun h => hp (h.append_left [c])
    simp only [List.cons_append] at hn ih ⊢
    rw [afterPath?, hn]
    exact ih hs

theorem afterPath?_position {line column rest : List Char} (hl : Numeral line)
    (hc : Numeral column) (hr : rest ≠ []) :
    afterPath? (':' :: line ++ ':' :: column ++ ':' :: ' ' :: rest) =
      some ⟨line, column, (message rest).1, (message rest).2⟩ := by
  have hp : position? (line ++ ':' :: column ++ ':' :: ' ' :: rest) = some (line, column, rest) :=
    (position?_eq_some_iff ..).mpr ⟨hl, hc, hr, rfl⟩
  simp only [List.cons_append] at hp ⊢
  rw [afterPath?, if_pos rfl, hp]

theorem message_append {m tail : List Char} {rule : Option (List Char)} (hm : m ≠ [])
    (ht : brackets? tail = some rule)
    (hs : ∀ s, s ≠ [] → s <:+ m → brackets? (s ++ tail) = none) :
    message (m ++ tail) = (m, rule) := by
  induction m with
  | nil => exact absurd rfl hm
  | cons c cs ih =>
    by_cases hc : cs = []
    · rw [hc, List.cons_append, List.nil_append, message, ht]
    · have hn : brackets? (cs ++ tail) = none := hs cs hc (List.suffix_cons c cs)
      have hi : message (cs ++ tail) = (cs, rule) :=
        ih hc fun s hne hsuf => hs s hne (hsuf.trans (List.suffix_cons c cs))
      rw [List.cons_append, message, hn, hi]

theorem strip?_eq_none {start cs : List Char} (h : ¬ start <+: cs) : strip? start cs = none := by
  rw [strip?, if_neg]
  rwa [List.isPrefixOf_iff_prefix]

theorem strip?_append (start cs : List Char) : strip? start (start ++ cs) = some cs := by
  rw [strip?, if_pos (List.isPrefixOf_iff_prefix.mpr (List.prefix_append start cs)),
    List.drop_left]

theorem Severity.prefix_of_append (s : Severity) {xs ys : List Char} (hx : xs ≠ [])
    (h : s.opening <+: xs ++ ' ' :: ys) : s.opening <+: xs := by
  obtain ⟨t, ht⟩ := h
  rcases List.append_eq_append_iff.mp ht with ⟨u, rfl, -⟩ | ⟨u, hu, he⟩
  · exact List.prefix_append s.opening u
  · cases u with
    | nil => exact ⟨[], by simpa using hu⟩
    | cons c u =>
      cases he
      cases xs with
      | nil => exact absurd rfl hx
      | cons x xs =>
        have hm : ' ' ∈ s.opening.tail := by rw [hu]; simp
        cases s <;> exact absurd hm (by decide)

theorem brackets?_eq_none {cs : List Char} (h : ∀ s : Severity, ¬ s.opening <+: cs) :
    brackets? cs = none := by
  have he : strip? " [Error".toList cs = none := strip?_eq_none (h .error)
  have hw : strip? " [Warning".toList cs = none := strip?_eq_none (h .warning)
  rw [brackets?, he, hw]
  rfl

theorem brackets?_opening (s : Severity) (rest : List Char) :
    brackets? (s.opening ++ rest) = ruleEnd? rest := by
  cases s with
  | error => rw [brackets?, show Severity.error.opening = " [Error".toList from rfl, strip?_append]
  | warning =>
    have hn : strip? " [Error".toList (Severity.warning.opening ++ rest) = none := rfl
    rw [brackets?, hn, show Severity.warning.opening = " [Warning".toList from rfl, strip?_append]
    rfl

namespace Printed

theorem line_numeral (f : Printed) : Numeral f.line :=
  numeral_of_digits f.line_ne f.line_digits

theorem column_numeral (f : Printed) : Numeral f.column :=
  numeral_of_digits f.column_ne f.column_digits

theorem ruleEnd?_ruleChars (f : Printed) : ruleEnd? (f.ruleChars ++ [']']) = some f.rule := by
  unfold ruleChars
  cases hr : f.rule with
  | none => rfl
  | some rule => simp [ruleEnd?, f.rule_ne rule hr]

theorem brackets?_brackets (f : Printed) : brackets? f.brackets = some f.rule := by
  rw [brackets, List.append_assoc, brackets?_opening, f.ruleEnd?_ruleChars]

theorem exists_brackets (f : Printed) : ∃ t, f.brackets = ' ' :: t := by
  unfold brackets
  cases f.severity with
  | error => exact ⟨_, rfl⟩
  | warning => exact ⟨_, rfl⟩

theorem message_brackets (f : Printed) :
    Eslint.message (f.message ++ f.brackets) = (f.message, f.rule) := by
  -- no shorter message is followed by brackets, or they would open within the message
  refine message_append f.message_ne f.brackets?_brackets ?_
  intro s hs hsuf
  obtain ⟨t, ht⟩ := f.exists_brackets
  refine brackets?_eq_none fun severity hp => ?_
  rw [ht] at hp
  have hpre : severity.opening <+: s := severity.prefix_of_append hs hp
  exact f.message_opening severity (hpre.isInfix.trans hsuf.isInfix)

theorem finding?_chars (f : Printed) : finding? f.chars = some f.toFinding := by
  have hne : f.message ++ f.brackets ≠ [] := by simp [f.message_ne]
  obtain ⟨c, cs, hp⟩ := List.exists_cons_of_ne_nil f.path_ne
  have hcs : ¬ Positioned cs := fun h => f.path_position (hp ▸ h.append_left [c])
  have hm := afterPath?_append (':' :: ' ' :: (f.message ++ f.brackets)) hcs f.line_numeral
    f.column_numeral
  have hr := afterPath?_position f.line_numeral f.column_numeral hne
  rw [f.message_brackets] at hr
  simp only [List.append_assoc, List.cons_append] at hm hr
  rw [chars, hp]
  simp only [List.append_assoc, List.cons_append, finding?]
  rw [hm, hr]

theorem chars_ne (f : Printed) : f.chars ≠ [] := by
  simp [chars]

theorem head_chars (f : Printed) : f.chars.head f.chars_ne = f.path.head f.path_ne := by
  simp [chars, f.path_ne]

theorem getLast_chars (f : Printed) : f.chars.getLast f.chars_ne = ']' := by
  have he : ∃ xs, f.chars = xs ++ [']'] :=
    ⟨f.path ++ ':' :: f.line ++ ':' :: f.column ++ ':' :: ' ' :: f.message ++
      f.severity.opening ++ f.ruleChars, by simp [chars, brackets]⟩
  obtain ⟨xs, hx⟩ := he
  simp [hx]

theorem ruleChars_line (f : Printed) : '\n' ∉ f.ruleChars := by
  unfold ruleChars
  cases hr : f.rule with
  | none => exact List.not_mem_nil
  | some rule => simpa using f.rule_line rule hr

theorem brackets_line (f : Printed) : '\n' ∉ f.brackets := by
  have ho : '\n' ∉ f.severity.opening := by
    cases f.severity <;> decide
  simp [brackets, ho, f.ruleChars_line]

theorem chars_line (f : Printed) : '\n' ∉ f.chars := by
  have hl : '\n' ∉ f.line := f.line_numeral.not_mem (by decide)
  have hc : '\n' ∉ f.column := f.column_numeral.not_mem (by decide)
  simp [chars, f.path_line, hl, hc, f.message_line, f.brackets_line]

theorem not_blank_head (f : Printed) : ∀ c ∈ f.chars.head?, Blank.isBlank c = false := by
  rw [List.head?_eq_some_head f.chars_ne, f.head_chars]
  rintro c ⟨⟩
  exact f.path_head

theorem not_blank_last (f : Printed) : ∀ c ∈ f.chars.getLast?, Blank.isBlank c = false := by
  rw [List.getLast?_eq_some_getLast f.chars_ne, f.getLast_chars]
  rintro c ⟨⟩
  decide

theorem errors_text (f : Printed) :
    errors Tool.eslint f.text "" = [String.ofList f.toFinding.chars] := by
  have he : Findings.error? Tool.eslint f.chars = some (String.ofList f.toFinding.chars) := by
    simp only [Findings.error?, Eslint.error?, f.finding?_chars, Option.map_some]
  rw [errors, text, outputLines_single f.chars_line f.chars_ne f.not_blank_head
    f.not_blank_last]
  simp only [List.filterMap_cons, he, List.filterMap_nil]

end Printed

end QualityGate.Findings.Eslint
