import QualityGate.Proofs.Findings.Eslint

namespace QualityGate.Findings

open Text

theorem strip?_eq_some_iff {start cs rest : List Char} :
    strip? start cs = some rest ↔ cs = start ++ rest := by
  constructor
  · intro h
    rw [strip?] at h
    split at h
    · next hp =>
      cases h
      rw [List.isPrefixOf_iff_prefix] at hp
      exact (List.prefix_iff_eq_append.mp hp).symm
    · cases h
  · rintro rfl
    exact Eslint.strip?_append start rest

namespace Eslint

/-- What may end a line after a message. -/
inductive Closing : List Char → Option (List Char) → Prop
  | bare : Closing [] none
  | severity (s : Severity) : Closing (s.opening ++ [']']) none
  | rule (s : Severity) {rule : List Char} (hn : rule ≠ []) :
      Closing (s.opening ++ '/' :: rule ++ [']']) (some rule)

/-- A way to take a line apart. -/
structure Split (line path : List Char) (f : Finding) : Prop where
  path_ne : path ≠ []
  line_numeral : Numeral f.line
  column_numeral : Numeral f.column
  message_ne : f.message ≠ []
  whole : ∃ closing, Closing closing f.rule ∧
    line = path ++ ':' :: f.line ++ ':' :: f.column ++ ':' :: ' ' :: f.message ++ closing

/-- No other way has a shorter path and, of those with this path, none has a shorter message. -/
structure LeastSplit (line path : List Char) (f : Finding) : Prop extends Split line path f where
  least : ∀ path' f', Split line path' f' → path.length ≤ path'.length ∧
    (path'.length = path.length → f.message.length ≤ f'.message.length)

theorem ruleEnd?_eq_some_iff (cs : List Char) (rule : Option (List Char)) :
    ruleEnd? cs = some rule ↔ cs = [']'] ∧ rule = none ∨
      ∃ r, r ≠ [] ∧ cs = '/' :: r ++ [']'] ∧ rule = some r := by
  constructor
  · intro h
    unfold ruleEnd? at h
    split at h
    · cases h
      exact .inl ⟨rfl, rfl⟩
    · next cs =>
      split at h
      · next hc =>
        cases h
        obtain ⟨r, rfl⟩ := List.getLast?_eq_some_iff.mp hc.1
        rw [List.dropLast_concat] at hc ⊢
        exact .inr ⟨r, hc.2, rfl, rfl⟩
      · cases h
    · cases h
  · rintro (⟨rfl, rfl⟩ | ⟨r, hr, rfl, rfl⟩)
    · rfl
    · simp [ruleEnd?, hr]

theorem brackets?_eq_some_iff (cs : List Char) (rule : Option (List Char)) :
    brackets? cs = some rule ↔ cs ≠ [] ∧ Closing cs rule := by
  constructor
  · intro h
    obtain ⟨s, rest, rfl, hr⟩ :
        ∃ s : Severity, ∃ rest, cs = s.opening ++ rest ∧ ruleEnd? rest = some rule := by
      unfold brackets? at h
      split at h
      · next rest hs => exact ⟨.error, rest, strip?_eq_some_iff.mp hs, h⟩
      · obtain ⟨rest, hs, hr⟩ := Option.bind_eq_some_iff.mp h
        exact ⟨.warning, rest, strip?_eq_some_iff.mp hs, hr⟩
    have hn : s.opening ≠ [] := by cases s <;> decide
    refine ⟨by simp [hn], ?_⟩
    obtain ⟨rfl, rfl⟩ | ⟨r, hne, rfl, rfl⟩ := (ruleEnd?_eq_some_iff rest rule).mp hr
    · exact .severity s
    · rw [← List.append_assoc]
      exact .rule s hne
  · rintro ⟨hn, hc⟩
    cases hc with
    | bare => exact absurd rfl hn
    | severity s => rw [brackets?_opening, ruleEnd?_eq_some_iff]; exact .inl ⟨rfl, rfl⟩
    | rule s hne =>
      rw [List.append_assoc, brackets?_opening, ruleEnd?_eq_some_iff]
      exact .inr ⟨_, hne, rfl, rfl⟩

theorem Closing.unique {cs : List Char} {rule rule' : Option (List Char)} (h : Closing cs rule)
    (h' : Closing cs rule') : rule = rule' := by
  by_cases hn : cs = []
  · have hnone : ∀ {rule}, Closing cs rule → rule = none := by
      intro rule hc
      cases hc with
      | bare => rfl
      | severity s => simp at hn
      | rule s _ => simp at hn
    rw [hnone h, hnone h']
  · have hb := (brackets?_eq_some_iff cs rule).mpr ⟨hn, h⟩
    rw [(brackets?_eq_some_iff cs rule').mpr ⟨hn, h'⟩] at hb
    exact (Option.some.inj hb).symm

theorem message_least {cs : List Char} (h : cs ≠ []) : (message cs).1 ≠ [] ∧
    (∃ closing, Closing closing (message cs).2 ∧ cs = (message cs).1 ++ closing) ∧
    ∀ m closing rule, m ≠ [] → Closing closing rule → cs = m ++ closing →
      (message cs).1.length ≤ m.length := by
  induction cs with
  | nil => exact absurd rfl h
  | cons c cs ih =>
    rw [message]
    split
    · next rule hb =>
      refine ⟨by simp, ⟨cs, ((brackets?_eq_some_iff cs rule).mp hb).2, rfl⟩, ?_⟩
      intro m closing rule hm _ _
      exact List.length_pos_iff.mpr hm
    · next hb =>
      by_cases hcs : cs = []
      · subst hcs
        refine ⟨by simp [message], ⟨[], .bare, rfl⟩, ?_⟩
        intro m closing rule hm _ _
        exact List.length_pos_iff.mpr hm
      · obtain ⟨-, ⟨closing, hc, he⟩, hl⟩ := ih hcs
        refine ⟨by simp, ⟨closing, hc, by rw [List.cons_append, ← he]⟩, ?_⟩
        intro m closing' rule hm hc' he'
        cases m with
        | nil => exact absurd rfl hm
        | cons d m =>
          obtain ⟨rfl, rfl⟩ := List.cons.inj he'
          by_cases hmn : m = []
          · subst hmn
            rw [(brackets?_eq_some_iff _ rule).mpr ⟨hcs, hc'⟩] at hb
            cases hb
          · exact Nat.succ_le_succ (hl m closing' rule hmn hc' rfl)

theorem split_iff {line path : List Char} {f : Finding} :
    Split line path f ↔ path ≠ [] ∧ ∃ rest body, line = path ++ ':' :: rest ∧
      position? rest = some (f.line, f.column, body) ∧ f.message ≠ [] ∧
      ∃ closing, Closing closing f.rule ∧ body = f.message ++ closing := by
  constructor
  · rintro ⟨hp, hl, hc, hm, closing, hcl, rfl⟩
    refine ⟨hp, f.line ++ ':' :: f.column ++ ':' :: ' ' :: (f.message ++ closing),
      f.message ++ closing, by simp, ?_, hm, closing, hcl, rfl⟩
    exact (position?_eq_some_iff ..).mpr ⟨hl, hc, by simp [hm], rfl⟩
  · rintro ⟨hp, rest, body, rfl, hpos, hm, closing, hcl, rfl⟩
    obtain ⟨hl, hc, -, rfl⟩ := (position?_eq_some_iff ..).mp hpos
    exact ⟨hp, hl, hc, hm, closing, hcl, by simp⟩

theorem afterPath?_eq_none {cs : List Char} (h : afterPath? cs = none) (pre rest : List Char)
    (he : cs = pre ++ ':' :: rest) : position? rest = none := by
  induction cs generalizing pre with
  | nil => simp at he
  | cons c cs ih =>
    rw [afterPath?] at h
    split at h
    · cases h
    · next hp =>
      cases pre with
      | nil =>
        obtain ⟨rfl, rfl⟩ := List.cons.inj he
        simpa using hp
      | cons d pre => exact ih h pre (List.cons.inj he).2

theorem afterPath?_eq_some {cs : List Char} {f : Finding} (h : afterPath? cs = some f) :
    ∃ pre rest body, cs = pre ++ ':' :: rest ∧ position? rest = some (f.line, f.column, body) ∧
      f.message = (message body).1 ∧ f.rule = (message body).2 ∧
      ∀ pre' rest', cs = pre' ++ ':' :: rest' → position? rest' ≠ none →
        pre.length ≤ pre'.length := by
  induction cs with
  | nil => cases h
  | cons c cs ih =>
    rw [afterPath?] at h
    split at h
    · next line column body hp =>
      cases h
      split at hp
      · next hc =>
        subst hc
        exact ⟨[], cs, body, rfl, hp, rfl, rfl, fun _ _ _ _ => Nat.zero_le _⟩
      · cases hp
    · next hp =>
      obtain ⟨pre, rest, body, rfl, hpos, hm, hr, hl⟩ := ih h
      refine ⟨c :: pre, rest, body, rfl, hpos, hm, hr, fun pre' rest' he hn => ?_⟩
      cases pre' with
      | nil =>
        obtain ⟨rfl, rfl⟩ := List.cons.inj he
        exact absurd (by simpa using hp) hn
      | cons d pre' => exact Nat.succ_le_succ (hl pre' rest' (List.cons.inj he).2 hn)

theorem finding?_eq_none {line : List Char} (h : finding? line = none) (path : List Char)
    (f : Finding) : ¬ Split line path f := by
  rw [split_iff]
  rintro ⟨hn, rest, body, rfl, hp, -⟩
  obtain ⟨c, cs, rfl⟩ := List.exists_cons_of_ne_nil hn
  rw [afterPath?_eq_none h cs rest rfl] at hp
  cases hp

theorem leastSplit_of_finding? {line : List Char} {f : Finding} (h : finding? line = some f) :
    ∃ path, LeastSplit line path f := by
  obtain _ | ⟨c, cs⟩ := line
  · cases h
  obtain ⟨pre, rest, body, rfl, hp, hm, hr, hl⟩ := afterPath?_eq_some h
  have hb : body ≠ [] := ((position?_eq_some_iff ..).mp hp).2.2.1
  obtain ⟨hmn, ⟨closing, hcl, he⟩, hml⟩ := message_least hb
  refine ⟨c :: pre, split_iff.mpr ⟨by simp, rest, body, rfl, hp, hm ▸ hmn, closing, hr ▸ hcl,
    hm ▸ he⟩, fun path' f' hs => ?_⟩
  obtain ⟨hn', rest', body', he', hp', hmn', closing', hcl', hb'⟩ := split_iff.mp hs
  obtain ⟨d, ds, rfl⟩ := List.exists_cons_of_ne_nil hn'
  obtain ⟨rfl, hcs⟩ := List.cons.inj he'
  refine ⟨Nat.succ_le_succ (hl ds rest' hcs (by simp [hp'])), fun hlen => ?_⟩
  have hlen' : pre.length = ds.length := (Nat.succ.inj hlen).symm
  obtain ⟨rfl, hrest⟩ := List.append_inj hcs hlen'
  obtain rfl := (List.cons.inj hrest).2
  rw [hp] at hp'
  obtain ⟨-, -, rfl⟩ : f.line = f'.line ∧ f.column = f'.column ∧ body = body' := by
    simpa using hp'
  rw [hm]
  exact hml _ _ _ hmn' hcl' hb'

theorem LeastSplit.unique {line path path' : List Char} {f f' : Finding}
    (h : LeastSplit line path f) (h' : LeastSplit line path' f') : f = f' := by
  have hlen : path.length = path'.length :=
    Nat.le_antisymm (h.least path' f' h'.toSplit).1 (h'.least path f h.toSplit).1
  have hmlen : f.message.length = f'.message.length :=
    Nat.le_antisymm ((h.least path' f' h'.toSplit).2 hlen.symm)
      ((h'.least path f h.toSplit).2 hlen)
  obtain ⟨-, rest, body, rfl, hp, -, closing, hcl, rfl⟩ := split_iff.mp h.toSplit
  obtain ⟨-, rest', body', he, hp', -, closing', hcl', rfl⟩ := split_iff.mp h'.toSplit
  obtain ⟨rfl, hrest⟩ := List.append_inj he hlen
  obtain rfl := (List.cons.inj hrest).2
  rw [hp] at hp'
  obtain ⟨hl, hc, hb⟩ : f.line = f'.line ∧ f.column = f'.column ∧
      f.message ++ closing = f'.message ++ closing' := by
    simpa using hp'
  obtain ⟨hm, rfl⟩ := List.append_inj hb hmlen
  obtain ⟨_, _, _, _⟩ := f
  obtain ⟨_, _, _, _⟩ := f'
  simp only [Finding.mk.injEq]
  exact ⟨hl, hc, hm, hcl.unique hcl'⟩

theorem finding?_eq_some_iff {line : List Char} {f : Finding} :
    finding? line = some f ↔ ∃ path, LeastSplit line path f := by
  refine ⟨leastSplit_of_finding?, ?_⟩
  rintro ⟨path, h⟩
  cases hf : finding? line with
  | none => exact absurd h.toSplit (finding?_eq_none hf path f)
  | some f' =>
    obtain ⟨path', h'⟩ := leastSplit_of_finding? hf
    rw [h.unique h']

end Eslint

/-- The parser of a tool accepts a line and makes an error of it. -/
inductive Accepts : Tool → List Char → String → Prop
  | prettier {mark subject : List Char} (hm : mark ∈ ["[warn] ".toList, "[error] ".toList])
      (hs : ¬ "Code style issues".toList <+: subject) : Accepts .prettier (mark ++ subject)
      (String.ofList ("Formatting issues in ".toList ++ subject))
  | bare {line path : List Char} {f : Eslint.Finding} (h : Eslint.LeastSplit line path f)
      (hr : f.rule = none) : Accepts .eslint line
      (String.ofList (f.line ++ ':' :: f.column ++ ' ' :: f.message))
  | ruled {line path rule : List Char} {f : Eslint.Finding} (h : Eslint.LeastSplit line path f)
      (hr : f.rule = some rule) : Accepts .eslint line
      (String.ofList (f.line ++ ':' :: f.column ++ ' ' :: f.message ++ ' ' :: '(' :: rule ++ [')']))
  | typescript {line : List Char} (h : "error TS".toList <:+: line) :
      Accepts .typescript line (String.ofList line)

theorem Prettier.subject?_eq_some_iff {line subject : List Char} :
    subject? line = some subject ↔
      ∃ mark ∈ ["[warn] ".toList, "[error] ".toList], line = mark ++ subject := by
  rw [subject?, Option.orElse_eq_orElse, Option.orElse_eq_or, Option.or_eq_some_iff,
    strip?_eq_some_iff, strip?_eq_some_iff]
  constructor
  · rintro (rfl | ⟨-, rfl⟩)
    · exact ⟨_, List.mem_cons_self, rfl⟩
    · exact ⟨_, List.mem_cons_of_mem _ List.mem_cons_self, rfl⟩
  · rintro ⟨mark, hm, rfl⟩
    obtain rfl | rfl : mark = "[warn] ".toList ∨ mark = "[error] ".toList := by simpa using hm
    · exact .inl rfl
    · exact .inr ⟨rfl, rfl⟩

theorem accepts_prettier_iff {line : List Char} {e : String} :
    Accepts .prettier line e ↔ Prettier.error? line = some e := by
  have hs : ∀ s, (!Prettier.isSummary s) = true ↔ ¬ "Code style issues".toList <+: s := by
    intro s
    rw [Prettier.isSummary, Bool.not_eq_true', ← Bool.not_eq_true, List.isPrefixOf_iff_prefix]
  rw [Prettier.error?, Option.map_eq_some_iff]
  constructor
  · rintro ⟨hm, hn⟩
    refine ⟨_, Option.mem_filter_iff.mpr ⟨?_, (hs _).mpr hn⟩, rfl⟩
    exact Prettier.subject?_eq_some_iff.mpr ⟨_, hm, rfl⟩
  · rintro ⟨subject, hf, rfl⟩
    obtain ⟨hf, hn⟩ := Option.mem_filter_iff.mp hf
    obtain ⟨mark, hm, rfl⟩ := Prettier.subject?_eq_some_iff.mp hf
    exact .prettier hm ((hs _).mp hn)

theorem accepts_eslint_iff {line : List Char} {e : String} :
    Accepts .eslint line e ↔ Eslint.error? line = some e := by
  rw [Eslint.error?, Option.map_eq_some_iff]
  constructor
  · rintro (_ | ⟨h, hr⟩ | ⟨h, hr⟩ | _)
    · exact ⟨_, Eslint.finding?_eq_some_iff.mpr ⟨_, h⟩, by simp [Eslint.Finding.chars, hr]⟩
    · exact ⟨_, Eslint.finding?_eq_some_iff.mpr ⟨_, h⟩, by simp [Eslint.Finding.chars, hr]⟩
  · rintro ⟨f, hf, rfl⟩
    obtain ⟨path, h⟩ := Eslint.finding?_eq_some_iff.mp hf
    rw [Eslint.Finding.chars]
    cases hr : f.rule with
    | none => simpa using Accepts.bare h hr
    | some rule => simpa using Accepts.ruled h hr

theorem accepts_typescript_iff {line : List Char} {e : String} :
    Accepts .typescript line e ↔ Typescript.error? line = some e := by
  rw [Typescript.error?_eq_some_iff, Lines.hasPart_iff]
  constructor
  · rintro ⟨⟩
    exact ⟨‹_›, rfl⟩
  · rintro ⟨h, rfl⟩
    exact .typescript h

theorem accepts_iff {tool : Tool} {line : List Char} {e : String} :
    Accepts tool line e ↔ error? tool line = some e := by
  cases tool with
  | prettier => exact accepts_prettier_iff
  | eslint => exact accepts_eslint_iff
  | typescript => exact accepts_typescript_iff

/-- One error for each line that the parser of the tool accepts, in the order of the lines. -/
inductive Gathered (tool : Tool) : List (List Char) → List String → Prop
  | nil : Gathered tool [] []
  | accepted {line : List Char} {e : String} {lines : List (List Char)} {errors : List String}
      (he : Accepts tool line e) (h : Gathered tool lines errors) :
      Gathered tool (line :: lines) (e :: errors)
  | ignored {line : List Char} {lines : List (List Char)} {errors : List String}
      (he : ∀ e, ¬ Accepts tool line e) (h : Gathered tool lines errors) :
      Gathered tool (line :: lines) errors

theorem gathered_filterMap (tool : Tool) (lines : List (List Char)) :
    Gathered tool lines (lines.filterMap (error? tool)) := by
  induction lines with
  | nil => exact .nil
  | cons line lines ih =>
    cases he : error? tool line with
    | none =>
      rw [List.filterMap_cons_none he]
      exact .ignored (fun e h => by simp [accepts_iff.mp h] at he) ih
    | some e =>
      rw [List.filterMap_cons_some he]
      exact .accepted (accepts_iff.mpr he) ih

end QualityGate.Findings
