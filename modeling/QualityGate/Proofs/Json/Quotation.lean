import QualityGate.Proofs.Json.Scan

namespace QualityGate.Json

open Text.Digits

section

variable {ε ε' α β : Type}

@[simp]
theorem toOption_ok (a : α) : (Except.ok a : Except ε α).toOption = some a :=
  rfl

@[simp]
theorem toOption_error (e : ε) : (Except.error e : Except ε α).toOption = none :=
  rfl

@[simp]
theorem toOption_map (f : α → β) (x : Except ε α) : (x.map f).toOption = x.toOption.map f := by
  cases x <;> rfl

@[simp]
theorem toOption_bind (x : Except ε α) (f : α → Except ε β) :
    (x >>= f).toOption = x.toOption.bind fun a => (f a).toOption := by
  cases x <;> rfl

@[simp]
theorem toOption_mapError (f : ε → ε') (x : Except ε α) :
    (x.mapError f).toOption = x.toOption := by
  cases x <;> rfl

theorem toOption_eq_some {x : Except ε α} {a : α} : x.toOption = some a ↔ x = .ok a := by
  cases x <;> simp

end

/-- What stands between the quotes of a string. -/
inductive IsBody : List Char → Prop
  | nil : IsBody []
  | plain {c : Char} {cs : List Char} (hq : c ≠ '"') (hb : c ≠ '\\') (hc : ¬ c.toNat < 0x20)
      (h : IsBody cs) : IsBody (c :: cs)
  | short {c e : Char} {cs : List Char} (hc : shortEscape? c = some e) (h : IsBody cs) :
      IsBody ('\\' :: c :: cs)
  | unicode {a b c d : Char} {n : Nat} {cs : List Char} (hn : natural? 16 [a, b, c, d] = some n)
      (h : IsBody cs) : IsBody ('\\' :: 'u' :: a :: b :: c :: d :: cs)

theorem escaped_short {c e : Char} (h : shortEscape? c = some e) (rest : List Char) :
    escaped (c :: rest) = .ok (e, rest) := by
  have hu : c ≠ 'u' := by
    rintro rfl
    cases h
  rw [escaped.eq_def]
  split
  · next he => cases he
  · next he =>
    cases he
    exact absurd rfl hu
  · next he =>
    cases he
    rw [h]

theorem escaped_unicode (cs : List Char) : escaped ('u' :: cs) = unicodeEscape cs :=
  rfl

theorem hexFour_cons {a b c d : Char} {n : Nat} (h : natural? 16 [a, b, c, d] = some n)
    (rest : List Char) : hexFour (a :: b :: c :: d :: rest) = .ok (n, rest) := by
  rw [hexFour, h]

theorem stringChars_of_escaped_error {before cs : List Char} {flaw : Flaw Defect}
    (h : escaped cs = .error flaw) : stringChars before ('\\' :: cs) = .error flaw := by
  rw [stringChars]
  split
  · next he =>
    rw [h] at he
    cases he
    rfl
  · next he =>
    rw [h] at he
    cases he

/-- An escape by code inside a string: it gives a character and leaves the rest of the string, or
it is a surrogate without its partner. -/
theorem unicodeEscape_body {a b c d : Char} {n : Nat} {cs : List Char}
    (hn : natural? 16 [a, b, c, d] = some n) (h : IsBody cs) :
    (∃ x cs', IsBody cs' ∧ cs'.length ≤ cs.length ∧ ∀ rest,
        unicodeEscape (a :: b :: c :: d :: (cs ++ '"' :: rest)) = .ok (x, cs' ++ '"' :: rest)) ∨
      ∀ rest, ∃ flaw, unicodeEscape (a :: b :: c :: d :: (cs ++ '"' :: rest)) = .error flaw := by
  simp only [unicodeEscape, hexFour_cons hn, bind, Except.bind, pure, Except.pure]
  by_cases ht : isTrailingSurrogate n = true
  · simp only [ht, if_true]
    exact .inr fun rest => ⟨_, rfl⟩
  by_cases hl : isLeadingSurrogate n = true
  · simp only [ht, hl, if_true]
    cases h with
    | nil => exact .inr fun rest => ⟨_, rfl⟩
    | plain hq hb hc h =>
      simp only [List.cons_append, expectInHex, if_neg hb]
      exact .inr fun rest => ⟨_, rfl⟩
    | @short c e cs hc h =>
      have hu : c ≠ 'u' := by
        rintro rfl
        cases hc
      simp only [List.cons_append, expectInHex, if_true, if_neg hu]
      exact .inr fun rest => ⟨_, rfl⟩
    | @unicode a b c d m cs hm h =>
      simp only [List.cons_append, expectInHex, if_true, hexFour_cons hm]
      by_cases htm : isTrailingSurrogate m = true
      · simp only [htm, if_true]
        exact .inl ⟨_, cs, h, by simp only [List.length_cons]; omega, fun rest => rfl⟩
      · simp only [htm]
        exact .inr fun rest => ⟨_, rfl⟩
  · simp only [ht, hl]
    exact .inl ⟨_, cs, h, Nat.le_refl _, fun rest => rfl⟩

theorem stringChars_body {cs : List Char} (h : IsBody cs) (before : List Char) :
    ∃ v : Option (List Char), ∀ rest,
      (stringChars before (cs ++ '"' :: rest)).toOption = v.map (·, rest) := by
  induction hn : cs.length using Nat.strongRecOn generalizing cs before with
  | ind k ih =>
    subst hn
    cases h with
    | nil =>
      refine ⟨some before.reverse, fun rest => ?_⟩
      rw [List.nil_append, stringChars]
      rfl
    | @plain c cs hq hb hc h =>
      obtain ⟨v, hv⟩ := ih _ (by simp) h (c :: before) rfl
      exact ⟨v, fun rest => by rw [List.cons_append, stringChars_plain hq hb hc, hv]⟩
    | @short c e cs hc h =>
      obtain ⟨v, hv⟩ := ih _ (by simp only [List.length_cons]; omega) h (e :: before) rfl
      refine ⟨v, fun rest => ?_⟩
      rw [List.cons_append, List.cons_append, stringChars_escaped (escaped_short hc _), hv]
    | @unicode a b c d n cs hn h =>
      simp only [List.cons_append]
      rcases unicodeEscape_body hn h with ⟨x, cs', hb, hl, he⟩ | he
      · obtain ⟨v, hv⟩ := ih _ (by simp only [List.length_cons]; omega) hb (x :: before) rfl
        refine ⟨v, fun rest => ?_⟩
        rw [stringChars_escaped ((escaped_unicode _).trans (he rest)), hv]
      · refine ⟨none, fun rest => ?_⟩
        obtain ⟨flaw, hf⟩ := he rest
        rw [stringChars_of_escaped_error ((escaped_unicode _).trans hf)]
        rfl

/-- The text of a string, from what stands between its quotes. -/
def bodyText? (body : List Char) : Option String :=
  (stringText (body ++ ['"'])).toOption.map Prod.fst

theorem stringText_body {body : List Char} (h : IsBody body) (rest : List Char) :
    (stringText (body ++ '"' :: rest)).toOption = (bodyText? body).map (·, rest) := by
  obtain ⟨v, hv⟩ := stringChars_body h []
  have ht : ∀ rest, (stringText (body ++ '"' :: rest)).toOption =
      v.map fun cs => (String.ofList cs, rest) := by
    intro rest
    rw [stringText, toOption_map, hv, Option.map_map]
    rfl
  rw [bodyText?, ht, ht, Option.map_map, Option.map_map]
  rfl

theorem skipEscaped_short {c e : Char} (h : shortEscape? c = some e) (rest : List Char) :
    skipEscaped (c :: rest) = .ok rest := by
  have hu : c ≠ 'u' := by
    rintro rfl
    cases h
  rw [skipEscaped.eq_def]
  split
  · next he => cases he
  · next he =>
    cases he
    exact absurd rfl hu
  · next he =>
    cases he
    rw [h]

theorem skipString_of_escaped {cs rest : List Char} (h : skipEscaped cs = .ok rest) :
    skipString ('\\' :: cs) = skipString rest := by
  rw [skipString]
  split
  · next he =>
    rw [h] at he
    cases he
  · next he =>
    rw [h] at he
    cases he
    rfl

theorem skipString_plain {rest : List Char} {c : Char} (hq : c ≠ '"') (hb : c ≠ '\\')
    (hc : ¬ c.toNat < 0x20) : skipString (c :: rest) = skipString rest := by
  rw [skipString.eq_def]
  split
  · next he => cases he
  · next he =>
    cases he
    exact absurd rfl hq
  · next he =>
    cases he
    exact absurd rfl hb
  · next he =>
    cases he
    rw [if_neg hc]

theorem skipString_body {body : List Char} (h : IsBody body) (rest : List Char) :
    skipString (body ++ '"' :: rest) = .ok rest := by
  induction h with
  | nil => rw [List.nil_append, skipString]
  | plain hq hb hc h ih => rw [List.cons_append, skipString_plain hq hb hc, ih]
  | short hc h ih =>
    rw [List.cons_append, List.cons_append, skipString_of_escaped (skipEscaped_short hc _), ih]
  | @unicode a b c d n cs hn h ih =>
    have he : skipEscaped ('u' :: a :: b :: c :: d :: (cs ++ '"' :: rest)) =
        .ok (cs ++ '"' :: rest) := by
      simp only [skipEscaped, hexFour_cons hn, Except.map]
    simp only [List.cons_append]
    rw [skipString_of_escaped he, ih]

end QualityGate.Json
