import QualityGate.Proofs.Json.Quotation

namespace QualityGate.Json

open Text.Digits

def IsDigits (ds : List Char) : Prop :=
  ∀ c ∈ ds, c.isDigit = true

/-- The digits before the point: a zero stands alone. -/
inductive IsWhole : List Char → Prop
  | zero : IsWhole ['0']
  | positive {c : Char} {ds : List Char} (hc : c.isDigit = true) (hz : c ≠ '0')
      (h : IsDigits ds) : IsWhole (c :: ds)

inductive IsFraction : List Char → Prop
  | none : IsFraction []
  | point {ds : List Char} (hn : ds ≠ []) (h : IsDigits ds) : IsFraction ('.' :: ds)

inductive IsExponent : List Char → Prop
  | none : IsExponent []
  | power {c : Char} {sign ds : List Char} (hc : c = 'e' ∨ c = 'E')
      (hs : sign = [] ∨ sign = ['+'] ∨ sign = ['-']) (hn : ds ≠ []) (h : IsDigits ds) :
      IsExponent (c :: (sign ++ ds))

inductive IsUnsigned : List Char → Prop
  | parts {w f e : List Char} (hw : IsWhole w) (hf : IsFraction f) (he : IsExponent e) :
      IsUnsigned (w ++ (f ++ e))

inductive IsNumeral : List Char → Prop
  | unsigned {n : List Char} (h : IsUnsigned n) : IsNumeral n
  | negative {n : List Char} (h : IsUnsigned n) : IsNumeral ('-' :: n)

theorem IsDigits.tail {c : Char} {ds : List Char} (h : IsDigits (c :: ds)) : IsDigits ds :=
  fun d hd => h d (List.mem_cons_of_mem c hd)

theorem IsDigits.startsWithDigit {ds : List Char} (h : IsDigits ds) (hn : ds ≠ [])
    (rest : List Char) : startsWithDigit (ds ++ rest) = true := by
  cases ds with
  | nil => exact absurd rfl hn
  | cons c ds => exact h c List.mem_cons_self

theorem dropWhile_isDigit {ds rest : List Char} (h : IsDigits ds)
    (hr : startsWithDigit rest = false) : (ds ++ rest).dropWhile Char.isDigit = rest := by
  rw [List.dropWhile_append_of_pos h]
  cases rest with
  | nil => rfl
  | cons c cs => exact List.dropWhile_cons_of_neg (by simpa [Json.startsWithDigit] using hr)

theorem dropDigits_append {ds rest : List Char} (h : IsDigits ds)
    (hr : startsWithDigit rest = false) : dropDigits (ds ++ rest) = (ds.length, rest) := by
  simp [dropDigits, dropWhile_isDigit h hr]

theorem takeDigits_split {ds : List Char} (h : IsDigits ds) (n count : Nat) :
    ∃ m k left, IsDigits left ∧ count ≤ k ∧ (ds = [] ∨ count < k ∨ left ≠ []) ∧
      ∀ rest, startsWithDigit rest = false →
        takeDigits n count (ds ++ rest) = (m, k, left ++ rest) := by
  induction ds generalizing n count with
  | nil =>
    refine ⟨n, count, [], h, Nat.le_refl _, .inl rfl, fun rest hr => ?_⟩
    cases rest with
    | nil => rfl
    | cons c cs =>
      have hv : valueIn? 10 c = none := valueIn?_of_not_isDigit hr
      simp only [List.nil_append, takeDigits, hv]
  | cons d ds ih =>
    have hv := valueIn?_of_isDigit (h d List.mem_cons_self)
    by_cases hle : 10 * n + (d.toNat - '0'.toNat) ≤ maxSignificand
    · obtain ⟨m, k, left, hl, hk, -, ht⟩ := ih h.tail (10 * n + (d.toNat - '0'.toNat)) (count + 1)
      refine ⟨m, k, left, hl, by omega, .inr (.inl hk), fun rest hr => ?_⟩
      rw [List.cons_append, takeDigits, hv]
      simp only [if_pos hle]
      exact ht rest hr
    · refine ⟨n, count, d :: ds, h, Nat.le_refl _, .inr (.inr (List.cons_ne_nil d ds)), ?_⟩
      intro rest _
      rw [List.cons_append, takeDigits, hv]
      simp only [if_neg hle]

theorem fraction_digits {ds : List Char} (h : IsDigits ds) (hn : ds ≠ []) (negative : Bool)
    (n : Nat) (start : Int) : ∃ m s, ∀ rest, startsWithDigit rest = false →
      fraction negative n start (ds ++ rest) = afterFraction negative m s rest := by
  obtain ⟨m, k, left, hl, -, hk, ht⟩ := takeDigits_split h n 0
  refine ⟨m, start - k, fun rest hr => ?_⟩
  rw [fraction, ht rest hr]
  by_cases hleft : left = []
  · have hk0 : k ≠ 0 := by
      rcases hk with hd | hlt | hne
      · exact absurd hd hn
      · omega
      · exact absurd hleft hne
    subst hleft
    simp only [List.nil_append, hr, Bool.false_eq_true, if_false, hk0]
  · simp only [hl.startsWithDigit hleft, if_true, dropDigits_append hl hr]

theorem exponentDigits_split {ds : List Char} (h : IsDigits ds) (e : Nat) :
    ∃ k? left, IsDigits left ∧ (k?.isSome → left = []) ∧
      ∀ rest, startsWithDigit rest = false →
        exponentDigits e (ds ++ rest) = (k?, left ++ rest) := by
  induction ds generalizing e with
  | nil =>
    refine ⟨some e, [], h, fun _ => rfl, fun rest hr => ?_⟩
    cases rest with
    | nil => rfl
    | cons c cs =>
      have hv : valueIn? 10 c = none := valueIn?_of_not_isDigit hr
      simp only [List.nil_append, exponentDigits, hv]
  | cons d ds ih =>
    have hv := valueIn?_of_isDigit (h d List.mem_cons_self)
    by_cases hle : 10 * e + (d.toNat - '0'.toNat) ≤ maxExponent
    · obtain ⟨k?, left, hl, hk, ht⟩ := ih h.tail (10 * e + (d.toNat - '0'.toNat))
      refine ⟨k?, left, hl, hk, fun rest hr => ?_⟩
      rw [List.cons_append, exponentDigits, hv]
      simp only [if_pos hle]
      exact ht rest hr
    · refine ⟨none, ds, h.tail, nofun, fun rest _ => ?_⟩
      rw [List.cons_append, exponentDigits, hv]
      simp only [if_neg hle]

/-- A token is read up to its end or not at all, and what follows it does not matter. -/
def Settles {α : Type} (scan : List Char → Scan α) (token : List Char) : Prop :=
  ∃ v : Option α, ∀ rest, Stops rest → (scan (token ++ rest)).toOption = v.map (·, rest)

theorem settles_finish (negative : Bool) (n : Nat) (e : Int) :
    Settles (finish negative n e) [] := by
  refine ⟨(scale (.ofNat n) e).map fun x => .real (if negative then x.negate else x), ?_⟩
  intro rest _
  rw [List.nil_append, finish]
  cases scale (.ofNat n) e <;> rfl

def afterExponent (negative : Bool) (n : Nat) (start : Int) (down : Bool) :
    Option Nat × List Char → Scan Numeral
  | (some e, rest) => finish negative n (if down then start - e else start + e) rest
  | (none, rest) =>
    if n ≠ 0 ∧ !down then failHere .numberOutOfRange rest
    else .ok (.real (.finite negative 0 (-1074)), (dropDigits rest).2)

theorem exponent_signed {sign : List Char} (hs : sign = [] ∨ sign = ['+'] ∨ sign = ['-'])
    {c : Char} (hc : c.isDigit = true) (negative : Bool) (n : Nat) (start : Int)
    (cs : List Char) : exponent negative n start (sign ++ c :: cs) =
      afterExponent negative n start (sign = ['-']) (exponentDigits 0 (c :: cs)) := by
  have hp : c ≠ '+' := by
    rintro rfl
    cases hc
  have hm : c ≠ '-' := by
    rintro rfl
    cases hc
  rw [exponent.eq_def]
  split
  next he =>
    rcases hs with rfl | rfl | rfl
    · split at he
      · next h => exact absurd (List.cons.inj h).1 hp
      · next h => exact absurd (List.cons.inj h).1 hm
      · cases he
        exact (if_pos hc).trans rfl
    · cases he
      exact (if_pos hc).trans rfl
    · cases he
      exact (if_pos hc).trans rfl

theorem settles_exponent {sign ds : List Char} (hs : sign = [] ∨ sign = ['+'] ∨ sign = ['-'])
    (hn : ds ≠ []) (h : IsDigits ds) (negative : Bool) (n : Nat) (start : Int) :
    Settles (exponent negative n start) (sign ++ ds) := by
  obtain ⟨k?, left, hl, hk, ht⟩ := exponentDigits_split h 0
  obtain ⟨c, cs, rfl⟩ := List.exists_cons_of_ne_nil hn
  have he : ∀ rest, Stops rest → exponent negative n start (sign ++ c :: cs ++ rest) =
      afterExponent negative n start (sign = ['-']) (k?, left ++ rest) := by
    intro rest hr
    rw [List.append_assoc, List.cons_append, exponent_signed hs (h c List.mem_cons_self)]
    exact congrArg _ (ht rest (startsWithDigit_of_stops hr))
  cases k? with
  | some e =>
    obtain ⟨v, hv⟩ := settles_finish negative n (if sign = ['-'] then start - e else start + e)
    refine ⟨v, fun rest hr => ?_⟩
    rw [he rest hr, hk rfl, afterExponent]
    simpa using hv rest hr
  | none =>
    by_cases ho : n ≠ 0 ∧ (!decide (sign = ['-'])) = true
    · refine ⟨none, fun rest hr => ?_⟩
      rw [he rest hr, afterExponent, if_pos ho]
      rfl
    · refine ⟨some (.real (.finite negative 0 (-1074))), fun rest hr => ?_⟩
      rw [he rest hr, afterExponent, if_neg ho,
        dropDigits_append hl (startsWithDigit_of_stops hr)]
      rfl

theorem Stops.ne_cons {rest : List Char} (hr : Stops rest) :
    (∀ r, rest ≠ '.' :: r) ∧ (∀ r, rest ≠ 'e' :: r) ∧ ∀ r, rest ≠ 'E' :: r := by
  refine ⟨?_, ?_, ?_⟩
  all_goals
    rintro r rfl
    simpa using hr _ rfl

theorem settles_afterFraction {e : List Char} (h : IsExponent e) (negative : Bool) (n : Nat)
    (start : Int) : Settles (afterFraction negative n start) e := by
  cases h with
  | none =>
    obtain ⟨v, hv⟩ := settles_finish negative n start
    refine ⟨v, fun rest hr => ?_⟩
    rw [← hv rest hr, List.nil_append, afterFraction]
    · exact hr.ne_cons.2.1
    · exact hr.ne_cons.2.2
  | power hc hs hn h =>
    obtain ⟨v, hv⟩ := settles_exponent hs hn h negative n start
    refine ⟨v, fun rest hr => ?_⟩
    rcases hc with rfl | rfl
    all_goals exact hv rest hr

theorem settles_plainNumber (negative : Bool) (n : Nat) : Settles (plainNumber negative n) [] := by
  refine ⟨((plainNumber negative n []).toOption.map Prod.fst), fun rest _ => ?_⟩
  rw [List.nil_append, plainNumber, plainNumber]
  split
  · split <;> rfl
  · rfl

/-- A number after the digits before its point, with the number of those that did not fit. -/
def afterWhole (negative : Bool) (n : Nat) (dropped : Option Nat) (cs : List Char) :
    Scan Numeral :=
  match dropped with
  | some count =>
    match cs with
    | '.' :: rest => fraction negative n count rest
    | rest => afterFraction negative n count rest
  | none =>
    match cs with
    | '.' :: rest => fraction negative n 0 rest
    | 'e' :: rest | 'E' :: rest => exponent negative n 0 rest
    | rest => plainNumber negative n rest

theorem number_whole {w : List Char} (h : IsWhole w) (negative : Bool) :
    ∃ n dropped, ∀ t, startsWithDigit t = false →
      number negative (w ++ t) = afterWhole negative n dropped t := by
  cases h with
  | zero =>
    refine ⟨0, none, fun t ht => ?_⟩
    rw [List.singleton_append, number.eq_def]
    split
    · next he => cases he
    · next he =>
      cases he
      have hd : (if startsWithDigit t = true then failNext .invalidNumber t
          else plainNumber negative 0 t) = plainNumber negative 0 t := by
        rw [ht, if_neg Bool.false_ne_true]
      split
      · rfl
      · rfl
      · rfl
      · rw [hd, afterWhole]
        all_goals assumption
    · next hz he =>
      cases he
      exact absurd rfl hz
  | @positive c ds hc hz h =>
    have hd : IsDigits (c :: ds) := List.forall_mem_cons.mpr ⟨hc, h⟩
    obtain ⟨n, k, left, hl, -, -, ht⟩ := takeDigits_split hd 0 0
    by_cases hleft : left = []
    · refine ⟨n, none, fun t hn => ?_⟩
      have ht := ht t hn
      rw [List.cons_append] at ht ⊢
      rw [number, if_pos hc, ht]
      · subst hleft
        simp only [List.nil_append, hn, Bool.false_eq_true, if_false]
        rfl
      · exact hz
    · refine ⟨n, some left.length, fun t hn => ?_⟩
      have ht := ht t hn
      rw [List.cons_append] at ht ⊢
      rw [number, if_pos hc, ht]
      · simp only [hl.startsWithDigit hleft, if_true, dropDigits_append hl hn]
        rfl
      · exact hz

theorem startsWithDigit_exponent {e rest : List Char} (h : IsExponent e) (hr : Stops rest) :
    startsWithDigit (e ++ rest) = false := by
  cases h with
  | none => exact startsWithDigit_of_stops hr
  | power hc hs hn h =>
    rcases hc with rfl | rfl
    all_goals rfl

theorem startsWithDigit_fraction {f e rest : List Char} (hf : IsFraction f) (he : IsExponent e)
    (hr : Stops rest) : startsWithDigit (f ++ (e ++ rest)) = false := by
  cases hf with
  | none =>
    rw [List.nil_append]
    exact startsWithDigit_exponent he hr
  | point hn h => rfl

theorem settles_afterWhole {f e : List Char} (hf : IsFraction f) (he : IsExponent e)
    (negative : Bool) (n : Nat) (dropped : Option Nat) :
    Settles (afterWhole negative n dropped) (f ++ e) := by
  cases hf with
  | @point ds hn h =>
    obtain ⟨m, s, hm⟩ := fraction_digits h hn negative n (dropped.getD 0)
    obtain ⟨v, hv⟩ := settles_afterFraction he negative m s
    refine ⟨v, fun rest hr => ?_⟩
    have hw : afterWhole negative n dropped ('.' :: (ds ++ (e ++ rest))) =
        fraction negative n (dropped.getD 0) (ds ++ (e ++ rest)) := by
      cases dropped <;> rfl
    rw [List.cons_append, List.cons_append, List.append_assoc, hw,
      hm _ (startsWithDigit_exponent he hr), hv rest hr]
  | none =>
    cases dropped with
    | some count =>
      obtain ⟨v, hv⟩ := settles_afterFraction he negative n count
      refine ⟨v, fun rest hr => ?_⟩
      rw [List.nil_append, afterWhole, hv rest hr]
      intro r h
      cases he with
      | none => exact hr.ne_cons.1 r h
      | power hc hs hn hd => rcases hc with rfl | rfl <;> cases h
    | none =>
      cases he with
      | none =>
        obtain ⟨v, hv⟩ := settles_plainNumber negative n
        refine ⟨v, fun rest hr => ?_⟩
        obtain ⟨hp, he, hE⟩ := hr.ne_cons
        rw [← hv rest hr, List.nil_append, List.nil_append, afterWhole]
        all_goals assumption
      | power hc hs hn hd =>
        obtain ⟨v, hv⟩ := settles_exponent hs hn hd negative n 0
        refine ⟨v, fun rest hr => ?_⟩
        rcases hc with rfl | rfl
        all_goals exact hv rest hr

theorem settles_number {n : List Char} (h : IsUnsigned n) (negative : Bool) :
    Settles (number negative) n := by
  cases h with
  | @parts w f e hw hf he =>
    obtain ⟨m, dropped, hm⟩ := number_whole hw negative
    obtain ⟨v, hv⟩ := settles_afterWhole hf he negative m dropped
    refine ⟨v, fun rest hr => ?_⟩
    have hv := hv rest hr
    rw [List.append_assoc] at hv ⊢
    rw [List.append_assoc, hm _ (startsWithDigit_fraction hf he hr), hv]

/-- The number that a numeral stands for, if it is in range. -/
def numeralValue? : List Char → Option Numeral
  | '-' :: cs => (number true cs).toOption.map Prod.fst
  | cs => (number false cs).toOption.map Prod.fst

theorem number_append {n rest : List Char} (h : IsUnsigned n) (hr : Stops rest)
    (negative : Bool) : (number negative (n ++ rest)).toOption =
      ((number negative n).toOption.map Prod.fst).map (·, rest) := by
  obtain ⟨v, hv⟩ := settles_number h negative
  have hn := hv [] nofun
  rw [List.append_nil] at hn
  rw [hv rest hr, hn, Option.map_map, Option.map_map]
  rfl

theorem skipExponent_digits {sign ds rest : List Char}
    (hs : sign = [] ∨ sign = ['+'] ∨ sign = ['-']) (hn : ds ≠ []) (h : IsDigits ds)
    (hr : Stops rest) : skipExponent (sign ++ ds ++ rest) = .ok rest := by
  have hd := h.startsWithDigit hn rest
  have hdrop := dropDigits_append h (startsWithDigit_of_stops hr)
  have hskip : skipExponent (sign ++ (ds ++ rest)) =
      if startsWithDigit (ds ++ rest) then .ok (dropDigits (ds ++ rest)).2
      else failNext .invalidNumber (ds ++ rest) := by
    rcases hs with rfl | rfl | rfl
    · rw [List.nil_append, skipExponent.eq_def]
      split
      · next he =>
        rw [he] at hd
        cases hd
      · next he =>
        rw [he] at hd
        cases hd
      · rfl
    · rfl
    · rfl
  rw [List.append_assoc, hskip, if_pos hd, hdrop]

/-- A number is skipped after the digits before its point. -/
def skipAfterWhole (cs : List Char) : Except (Flaw Defect) (List Char) :=
  match cs with
  | '.' :: cs => skipFraction cs
  | 'e' :: cs | 'E' :: cs => skipExponent cs
  | cs => .ok cs

theorem skipNumber_whole {w t : List Char} (h : IsWhole w) (ht : startsWithDigit t = false) :
    skipNumber (w ++ t) = skipAfterWhole t := by
  cases h with
  | zero =>
    have hs : startsWithDigit (['0'] ++ t) = true := rfl
    rw [skipNumber, if_pos hs]
    simp only [List.cons_append, List.nil_append, List.head?_cons, List.tail_cons, ht, decide_true,
      Bool.and_false, Bool.false_eq_true, if_true, if_false]
    rfl
  | @positive c ds hc hz h =>
    have hd : IsDigits (c :: ds) := List.forall_mem_cons.mpr ⟨hc, h⟩
    have hdrop := dropDigits_append hd ht
    rw [skipNumber, if_pos (hd.startsWithDigit (List.cons_ne_nil c ds) t), hdrop]
    simp only [List.cons_append, List.head?_cons, Option.some.injEq, hz, decide_false,
      Bool.false_and, Bool.false_eq_true, if_false]
    rfl

theorem skipAfterWhole_exponent {e rest : List Char} (h : IsExponent e) (hr : Stops rest) :
    skipAfterWhole (e ++ rest) = .ok rest := by
  cases h with
  | none =>
    obtain ⟨hp, he, hE⟩ := hr.ne_cons
    rw [List.nil_append, skipAfterWhole]
    all_goals assumption
  | power hc hs hn h =>
    have he := skipExponent_digits hs hn h hr
    rcases hc with rfl | rfl
    all_goals exact he

theorem skipFraction_digits {ds e rest : List Char} (hn : ds ≠ []) (h : IsDigits ds)
    (he : IsExponent e) (hr : Stops rest) : skipFraction (ds ++ (e ++ rest)) = .ok rest := by
  have ht := startsWithDigit_exponent he hr
  rw [skipFraction, if_pos (h.startsWithDigit hn _), dropDigits_append h ht]
  cases he with
  | none =>
    obtain ⟨-, he, hE⟩ := hr.ne_cons
    dsimp only [List.nil_append]
    split
    · exact absurd rfl (he _)
    · exact absurd rfl (hE _)
    · rfl
  | power hc hs hn h =>
    have he := skipExponent_digits hs hn h hr
    rcases hc with rfl | rfl
    all_goals exact he

theorem skipNumber_unsigned {n rest : List Char} (h : IsUnsigned n) (hr : Stops rest) :
    skipNumber (n ++ rest) = .ok rest := by
  cases h with
  | @parts w f e hw hf he =>
    rw [List.append_assoc, List.append_assoc,
      skipNumber_whole hw (startsWithDigit_fraction hf he hr)]
    cases hf with
    | none =>
      rw [List.nil_append, skipAfterWhole_exponent he hr]
    | point hn h => exact skipFraction_digits hn h he hr

end QualityGate.Json
