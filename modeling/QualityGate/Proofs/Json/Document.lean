import QualityGate.Json.Skip
import QualityGate.Proofs.Json.Compact
import QualityGate.Proofs.Json.Numeral

namespace QualityGate.Json

inductive Document
  | null
  | bool (b : Bool)
  | number (numeral : List Char)
  | string (body : List Char)
  | array (items : List Document)
  | object (members : List (List Char × Document))

def Blank (cs : List Char) : Prop :=
  ∀ c ∈ cs, isSpace c = true

/-- What stands before an item or a member: blanks, and a comma unless it is the first one. -/
inductive Lead : Bool → List Char → Prop
  | first {b : List Char} (h : Blank b) : Lead true b
  | next {b b' : List Char} (h : Blank b) (h' : Blank b') : Lead false (b ++ ',' :: b')

mutual

/-- The text begins with the document and goes on with the rest. -/
inductive Spells : Document → List Char → List Char → Prop
  | null (rest : List Char) : Spells .null ('n' :: 'u' :: 'l' :: 'l' :: rest) rest
  | true (rest : List Char) : Spells (.bool true) ('t' :: 'r' :: 'u' :: 'e' :: rest) rest
  | false (rest : List Char) :
      Spells (.bool false) ('f' :: 'a' :: 'l' :: 's' :: 'e' :: rest) rest
  | number {n : List Char} (rest : List Char) (h : IsNumeral n) :
      Spells (.number n) (n ++ rest) rest
  | string {body : List Char} (rest : List Char) (h : IsBody body) :
      Spells (.string body) ('"' :: (body ++ '"' :: rest)) rest
  | array {ds : List Document} {cs rest : List Char} (h : SpellsItems true ds cs rest) :
      Spells (.array ds) ('[' :: cs) rest
  | object {ms : List (List Char × Document)} {cs rest : List Char}
      (h : SpellsMembers true ms cs rest) : Spells (.object ms) ('\x7b' :: cs) rest

/-- The text goes on with these items, the end of the array, and the rest. -/
inductive SpellsItems : Bool → List Document → List Char → List Char → Prop
  | close {first : Bool} {b : List Char} (rest : List Char) (h : Blank b) :
      SpellsItems first [] (b ++ ']' :: rest) rest
  | cons {first : Bool} {lead cs mid rest : List Char} {d : Document} {ds : List Document}
      (hl : Lead first lead) (hd : Spells d cs mid) (h : SpellsItems false ds mid rest) :
      SpellsItems first (d :: ds) (lead ++ cs) rest

inductive SpellsMembers : Bool → List (List Char × Document) → List Char → List Char → Prop
  | close {first : Bool} {b : List Char} (rest : List Char) (h : Blank b) :
      SpellsMembers first [] (b ++ '\x7d' :: rest) rest
  | cons {first : Bool} {lead name b b' cs mid rest : List Char} {d : Document}
      {ms : List (List Char × Document)} (hl : Lead first lead) (hn : IsBody name) (hb : Blank b)
      (hb' : Blank b') (hd : Spells d cs mid) (h : SpellsMembers false ms mid rest) :
      SpellsMembers first ((name, d) :: ms)
        (lead ++ '"' :: (name ++ '"' :: (b ++ ':' :: (b' ++ cs)))) rest

end

def Document.Spelled (d : Document) (text : String) : Prop :=
  ∃ b cs b', Blank b ∧ Blank b' ∧ Spells d cs b' ∧ text.toList = b ++ cs

theorem blank_nil : Blank [] :=
  nofun

theorem skipSpace_append {b : List Char} (h : Blank b) (cs : List Char) :
    skipSpace (b ++ cs) = skipSpace cs :=
  List.dropWhile_append_of_pos h

theorem skipSpace_append_cons {b : List Char} {c : Char} (h : Blank b) (hc : isSpace c = false)
    (cs : List Char) : skipSpace (b ++ c :: cs) = c :: cs := by
  rw [skipSpace_append h, skipSpace_cons hc]

theorem skipSpace_blank {b : List Char} (h : Blank b) : skipSpace b = [] := by
  rw [← List.append_nil b, skipSpace_append h]
  rfl

theorem stops_blank_append {b cs : List Char} (h : Blank b) (hs : Stops cs) : Stops (b ++ cs) := by
  cases b with
  | nil => exact hs
  | cons c b =>
    have hc : isSpace c = true := h c List.mem_cons_self
    refine stops_cons (Bool.eq_false_iff.mpr fun hd => ?_) ?_ ?_ ?_
    · rw [isSpace_of_isDigit hd] at hc
      cases hc
    all_goals
      rintro rfl
      cases hc

theorem stops_blank {b : List Char} (h : Blank b) : Stops b := by
  rw [← List.append_nil b]
  exact stops_blank_append h nofun

theorem IsWhole.exists_cons {w : List Char} (h : IsWhole w) :
    ∃ c cs, w = c :: cs ∧ c.isDigit = true := by
  cases h with
  | zero => exact ⟨'0', [], rfl, rfl⟩
  | positive hc _ _ => exact ⟨_, _, rfl, hc⟩

theorem IsUnsigned.exists_cons {n : List Char} (h : IsUnsigned n) :
    ∃ c cs, n = c :: cs ∧ c.isDigit = true := by
  cases h with
  | parts hw _ _ =>
    obtain ⟨c, cs, rfl, hc⟩ := hw.exists_cons
    exact ⟨c, _, rfl, hc⟩

theorem IsNumeral.exists_cons {n : List Char} (h : IsNumeral n) :
    ∃ c cs, n = c :: cs ∧ (c = '-' ∨ c.isDigit = true) := by
  cases h with
  | unsigned h =>
    obtain ⟨c, cs, rfl, hc⟩ := h.exists_cons
    exact ⟨c, cs, rfl, .inr hc⟩
  | negative h => exact ⟨'-', _, rfl, .inl rfl⟩

theorem numeralValue?_unsigned {n : List Char} (h : IsUnsigned n) :
    numeralValue? n = (number false n).toOption.map Prod.fst := by
  obtain ⟨c, cs, rfl, hc⟩ := h.exists_cons
  rw [numeralValue?]
  rintro r ⟨⟩
  cases hc

/-- A character that a document can begin with. -/
structure Opens (c : Char) : Prop where
  space : isSpace c = false
  comma : c ≠ ','
  list : c ≠ ']'

theorem opens_of_isDigit {c : Char} (h : c.isDigit = true) : Opens c := by
  refine ⟨isSpace_of_isDigit h, ?_, ?_⟩
  all_goals
    rintro rfl
    cases h

theorem Spells.exists_cons {d : Document} {cs rest : List Char} (h : Spells d cs rest) :
    ∃ c cs', cs = c :: cs' ∧ Opens c := by
  cases h with
  | number rest h =>
    obtain ⟨c, cs, rfl, rfl | hc⟩ := h.exists_cons
    · exact ⟨'-', _, rfl, by decide, by decide, by decide⟩
    · exact ⟨c, _, rfl, opens_of_isDigit hc⟩
  | _ => exact ⟨_, _, rfl, by decide, by decide, by decide⟩

theorem SpellsItems.stops {ds : List Document} {cs rest : List Char}
    (h : SpellsItems false ds cs rest) : Stops cs := by
  cases h with
  | close rest h =>
    exact stops_blank_append h (stops_cons (by decide) (by decide) (by decide) (by decide))
  | cons hl hd h =>
    cases hl with
    | next hb hb' =>
      rw [List.append_assoc]
      exact stops_blank_append hb (stops_cons (by decide) (by decide) (by decide) (by decide))

theorem SpellsMembers.stops {ms : List (List Char × Document)} {cs rest : List Char}
    (h : SpellsMembers false ms cs rest) : Stops cs := by
  cases h with
  | close rest h =>
    exact stops_blank_append h (stops_cons (by decide) (by decide) (by decide) (by decide))
  | cons hl hn hb hb' hd h =>
    cases hl with
    | next hb hb' =>
      rw [List.append_assoc]
      exact stops_blank_append hb (stops_cons (by decide) (by decide) (by decide) (by decide))

theorem skipItem_of_isDigit {c : Char} (h : c.isDigit = true) (fuel : Nat) (stack : List Bracket)
    (cs : List Char) :
    skipItem (fuel + 1) stack (c :: cs) = skipNumber (c :: cs) >>= skipAfter fuel stack := by
  rw [skipItem, skipSpace_cons (isSpace_of_isDigit h)]
  split
  case h_1 he => cases he
  case h_9 he =>
    cases he
    rw [if_pos h]
  all_goals
    next he =>
      cases he
      exact absurd h (by decide)

theorem skipItem_blank {b : List Char} (h : Blank b) (fuel : Nat) (stack : List Bracket)
    (cs : List Char) : skipItem (fuel + 1) stack (b ++ cs) = skipItem (fuel + 1) stack cs := by
  rw [skipItem, skipItem, skipSpace_append h]

theorem skipItem_number {n rest : List Char} (h : IsNumeral n) (hr : Stops rest) (fuel : Nat)
    (stack : List Bracket) :
    skipItem (fuel + 1) stack (n ++ rest) = skipAfter fuel stack rest := by
  cases h with
  | unsigned h =>
    have hs := skipNumber_unsigned h hr
    obtain ⟨c, cs, rfl, hc⟩ := h.exists_cons
    rw [List.cons_append] at hs ⊢
    rw [skipItem_of_isDigit hc, hs]
    rfl
  | negative h =>
    rw [List.cons_append, skipItem, skipSpace_cons (by decide)]
    change skipNumber _ >>= _ = _
    rw [skipNumber_unsigned h hr]
    rfl

section Steps

variable {b b' cs rest : List Char} (fuel : Nat) (stack : List Bracket)

theorem skipItem_emptyList (h : Blank b) :
    skipItem (fuel + 1) stack ('[' :: (b ++ ']' :: rest)) = skipAfter fuel stack rest := by
  have hs : skipSpace (b ++ ']' :: rest) = ']' :: rest := skipSpace_append_cons h (by decide) rest
  rw [skipItem, skipSpace_cons (by decide)]
  simp only [hs]

theorem skipItem_list {c : Char} (h : Blank b) (ho : Opens c) :
    skipItem (fuel + 1) stack ('[' :: (b ++ c :: cs)) =
      skipItem fuel (.list :: stack) (c :: cs) := by
  have hs : skipSpace (b ++ c :: cs) = c :: cs := skipSpace_append_cons h ho.space cs
  rw [skipItem, skipSpace_cons (by decide)]
  simp only [hs]
  split
  · next he => cases he
  · next he => exact absurd (List.cons.inj he).1 ho.list
  · rfl

theorem skipItem_emptyObject (h : Blank b) :
    skipItem (fuel + 1) stack ('\x7b' :: (b ++ '\x7d' :: rest)) = skipAfter fuel stack rest := by
  have hs : skipSpace (b ++ '\x7d' :: rest) = '\x7d' :: rest :=
    skipSpace_append_cons h (by decide) rest
  rw [skipItem, skipSpace_cons (by decide)]
  simp only [hs]

theorem skipItem_object (h : Blank b) :
    skipItem (fuel + 1) stack ('\x7b' :: (b ++ '"' :: cs)) =
      skipMember fuel (.object :: stack) ('"' :: cs) := by
  have hs : skipSpace (b ++ '"' :: cs) = '"' :: cs := skipSpace_append_cons h (by decide) cs
  rw [skipItem, skipSpace_cons (by decide)]
  simp only [hs]
  rfl

theorem skipMember_name {name : List Char} (hn : IsBody name) (h : Blank b) :
    skipMember (fuel + 1) stack ('"' :: (name ++ '"' :: (b ++ ':' :: cs))) =
      skipItem fuel stack cs := by
  have hs : skipSpace (b ++ ':' :: cs) = ':' :: cs := skipSpace_append_cons h (by decide) cs
  rw [skipMember, skipSpace_cons (by decide)]
  simp only [skipString_body hn, bind, Except.bind, hs]

theorem skipAfter_closing (bracket : Bracket) (h : Blank b) :
    skipAfter (fuel + 1) (bracket :: stack) (b ++ bracket.closing :: rest) =
      skipAfter fuel stack rest := by
  have hc : isSpace bracket.closing = false ∧ bracket.closing ≠ ',' := by
    cases bracket <;> decide
  rw [skipAfter, skipSpace_append_cons h hc.1]
  simp only [if_neg hc.2, if_true]

theorem skipAfter_item (h : Blank b) :
    skipAfter (fuel + 1) (.list :: stack) (b ++ ',' :: cs) = skipItem fuel (.list :: stack) cs := by
  have hs : skipSpace (b ++ ',' :: cs) = ',' :: cs := skipSpace_append_cons h (by decide) cs
  rw [skipAfter]
  simp only [hs, if_true]

theorem skipAfter_member (h : Blank b) (h' : Blank b') :
    skipAfter (fuel + 2) (.object :: stack) (b ++ ',' :: (b' ++ cs)) =
      skipMember (fuel + 1) (.object :: stack) cs := by
  have hs : skipSpace (b ++ ',' :: (b' ++ cs)) = ',' :: (b' ++ cs) :=
    skipSpace_append_cons h (by decide) _
  rw [skipAfter]
  simp only [hs, if_true]
  rw [skipMember, skipMember, skipSpace_append h']

end Steps

mutual

theorem Spells.skip : {d : Document} → {cs rest : List Char} → Spells d cs rest → Stops rest →
    ∃ k, k + 1 + rest.length ≤ cs.length ∧ ∀ fuel stack,
      skipItem (fuel + k + 1) stack cs = skipAfter fuel stack rest
  | _, _, _, .null rest, _ => ⟨0, by simp only [List.length_cons]; omega, fun _ _ => rfl⟩
  | _, _, _, .true rest, _ => ⟨0, by simp only [List.length_cons]; omega, fun _ _ => rfl⟩
  | _, _, _, .false rest, _ => ⟨0, by simp only [List.length_cons]; omega, fun _ _ => rfl⟩
  | _, _, _, .number rest h, hr => by
    refine ⟨0, ?_, fun fuel stack => skipItem_number h hr fuel stack⟩
    obtain ⟨c, cs, rfl, -⟩ := h.exists_cons
    simp only [List.length_append, List.length_cons]
    omega
  | _, _, _, .string rest h, _ => by
    refine ⟨0, ?_, fun fuel stack => ?_⟩
    · simp only [List.length_cons, List.length_append]
      omega
    · rw [skipItem, skipSpace_cons (by decide)]
      change skipString _ >>= _ = _
      rw [skipString_body h]
      rfl
  | _, _, _, .array (.close rest hb), _ => by
    refine ⟨0, ?_, fun fuel stack => skipItem_emptyList fuel stack hb⟩
    simp only [List.length_cons, List.length_append]
    omega
  | _, _, _, .array (.cons (.first hb) hd h), _ => by
    obtain ⟨k, hk, hs⟩ := Spells.skip hd h.stops
    obtain ⟨l, hl, ht⟩ := SpellsItems.skip h
    refine ⟨k + 1 + l + 1, ?_, fun fuel stack => ?_⟩
    · simp only [List.length_cons, List.length_append]
      omega
    · obtain ⟨c, cs, rfl, ho⟩ := hd.exists_cons
      have hf : fuel + (k + 1 + l + 1) = fuel + l + 1 + k + 1 := by omega
      rw [skipItem_list _ _ hb ho, hf, hs, ht]
  | _, _, _, .object (.close rest hb), _ => by
    refine ⟨0, ?_, fun fuel stack => skipItem_emptyObject fuel stack hb⟩
    simp only [List.length_cons, List.length_append]
    omega
  | _, _, _, .object (.cons (.first hb) hn hc hv hd h), _ => by
    obtain ⟨k, hk, hs⟩ := Spells.skip hd h.stops
    obtain ⟨l, hl, ht⟩ := SpellsMembers.skip h
    refine ⟨k + 1 + l + 1 + 1, ?_, fun fuel stack => ?_⟩
    · simp only [List.length_cons, List.length_append]
      omega
    · have hf : fuel + (k + 1 + l + 1 + 1) = fuel + l + 1 + k + 1 + 1 := by omega
      rw [skipItem_object _ _ hb, hf, skipMember_name _ _ hn hc, skipItem_blank hv, hs, ht]

theorem SpellsItems.skip : {ds : List Document} → {cs rest : List Char} →
    SpellsItems false ds cs rest → ∃ k, k + 1 + rest.length ≤ cs.length ∧ ∀ fuel stack,
      skipAfter (fuel + k + 1) (.list :: stack) cs = skipAfter fuel stack rest
  | _, _, _, .close rest hb => by
    refine ⟨0, ?_, fun fuel stack => skipAfter_closing fuel stack .list hb⟩
    simp only [List.length_cons, List.length_append]
    omega
  | _, _, _, .cons (.next hb hb') hd h => by
    obtain ⟨k, hk, hs⟩ := Spells.skip hd h.stops
    obtain ⟨l, hl, ht⟩ := SpellsItems.skip h
    refine ⟨k + 1 + l + 1, ?_, fun fuel stack => ?_⟩
    · simp only [List.length_cons, List.length_append]
      omega
    · have hf : fuel + (k + 1 + l + 1) = fuel + l + 1 + k + 1 := by omega
      rw [List.append_assoc, List.cons_append, skipAfter_item _ _ hb, hf, skipItem_blank hb', hs,
        ht]

theorem SpellsMembers.skip : {ms : List (List Char × Document)} → {cs rest : List Char} →
    SpellsMembers false ms cs rest → ∃ k, k + 1 + rest.length ≤ cs.length ∧ ∀ fuel stack,
      skipAfter (fuel + k + 1) (.object :: stack) cs = skipAfter fuel stack rest
  | _, _, _, .close rest hb => by
    refine ⟨0, ?_, fun fuel stack => skipAfter_closing fuel stack .object hb⟩
    simp only [List.length_cons, List.length_append]
    omega
  | _, _, _, .cons (.next hb hb') hn hc hv hd h => by
    obtain ⟨k, hk, hs⟩ := Spells.skip hd h.stops
    obtain ⟨l, hl, ht⟩ := SpellsMembers.skip h
    refine ⟨k + 1 + l + 1 + 1, ?_, fun fuel stack => ?_⟩
    · simp only [List.length_cons, List.length_append]
      omega
    · have hf : fuel + (k + 1 + l + 1 + 1) + 1 = fuel + l + 1 + k + 1 + 2 := by omega
      rw [List.append_assoc, List.cons_append, hf, skipAfter_member _ _ hb hb',
        skipMember_name _ _ hn hc, skipItem_blank hv, hs, ht]

end

theorem SpellsItems.length_lt {first : Bool} {ds : List Document} {cs rest : List Char}
    (h : SpellsItems first ds cs rest) : ds.length < cs.length := by
  induction ds generalizing first cs with
  | nil =>
    cases h with
    | close rest hb => simp
  | cons d ds ih =>
    cases h with
    | cons hl hd h =>
      obtain ⟨k, hk, -⟩ := hd.skip h.stops
      have hi := ih h
      simp only [List.length_cons, List.length_append]
      omega

theorem SpellsMembers.length_lt {first : Bool} {ms : List (List Char × Document)}
    {cs rest : List Char} (h : SpellsMembers first ms cs rest) : ms.length < cs.length := by
  induction ms generalizing first cs with
  | nil =>
    cases h with
    | close rest hb => simp
  | cons m ms ih =>
    cases h with
    | cons hl hn hb hb' hd h =>
      obtain ⟨k, hk, -⟩ := hd.skip h.stops
      have hi := ih h
      simp only [List.length_cons, List.length_append]
      omega

theorem skipValue_spells {d : Document} {b cs rest : List Char} (hb : Blank b)
    (h : Spells d cs rest) (hr : Stops rest) : skipValue (b ++ cs) = .ok rest := by
  obtain ⟨k, hk, hs⟩ := h.skip hr
  obtain ⟨fuel, hf⟩ : ∃ fuel, 2 * (b ++ cs).length + 2 = fuel + k + 1 :=
    ⟨2 * (b ++ cs).length + 1 - k, by rw [List.length_append]; omega⟩
  rw [skipValue, hf, skipItem_blank hb, hs, skipAfter]

end QualityGate.Json
