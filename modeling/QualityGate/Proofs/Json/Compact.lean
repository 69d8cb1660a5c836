import QualityGate.Json.Read
import QualityGate.Proofs.Json.Scan
import QualityGate.Proofs.Members

namespace QualityGate.Json

open Text.Digits

/-- Values that a JSON text can tell exactly: integers are in the range of machine words, there are
no other numbers, and the members of an object are in the order of their names. -/
inductive Plain : Json → Prop
  | null : Plain null
  | bool (b : Bool) : Plain (bool b)
  | natural {n : Nat} (h : n < 2 ^ 64) : Plain (integer n)
  | negative {n : Nat} (h : 0 < n) (h' : n ≤ 2 ^ 63) : Plain (integer (-n))
  | string (s : String) : Plain (string s)
  | array {items : List Json} (h : ∀ j ∈ items, Plain j) : Plain (array items)
  | object {members : List (String × Json)} (hs : Members.Sorted members)
      (h : ∀ m ∈ members, Plain m.2) : Plain (object members)

/-- The compact form of a value is read as the value, whatever follows it. -/
def Reads (j : Json) : Prop :=
  ∀ fuel rest, (compactChars j).length ≤ fuel → Stops rest →
    value fuel (compactChars j ++ rest) = .ok (j, rest)

/-- The compact form of a value begins with a character of its own. -/
def Begins (j : Json) : Prop :=
  ∃ c cs, compactChars j = c :: cs ∧ isSpace c = false ∧ c ≠ ']'

theorem skipSpace_cons {c : Char} (h : isSpace c = false) (cs : List Char) :
    skipSpace (c :: cs) = c :: cs :=
  List.dropWhile_cons_of_neg (by simp [h])

theorem Reads.of_succ {j : Json} (hn : compactChars j ≠ [])
    (h : ∀ fuel rest, (compactChars j).length ≤ fuel + 1 → Stops rest →
      value (fuel + 1) (compactChars j ++ rest) = .ok (j, rest)) : Reads j := by
  intro fuel rest hf hr
  cases fuel with
  | zero => exact absurd (List.length_eq_zero_iff.mp (Nat.le_zero.mp hf)) hn
  | succ fuel => exact h fuel rest hf hr

theorem signed_natural (n : Nat) : signed n = decimal n := by
  have hn : ¬ ((n : Int) < 0) := by omega
  rw [signed, if_neg hn, Int.natAbs_natCast]

theorem signed_negative {n : Nat} (h : 0 < n) :
    (signed (-n)).toList = '-' :: (decimal n).toList := by
  have hn : -(n : Int) < 0 := by omega
  rw [signed, if_pos hn, Int.natAbs_neg, Int.natAbs_natCast, String.toList_append]
  rfl

theorem isSpace_of_isDigit {c : Char} (h : c.isDigit = true) : isSpace c = false := by
  rw [← Bool.not_eq_true]
  intro hs
  simp only [isSpace, Bool.or_eq_true, decide_eq_true_eq] at hs
  rcases hs with ((rfl | rfl) | rfl) | rfl <;> exact absurd h (by decide)

theorem value_of_isDigit {c : Char} (h : c.isDigit = true) (fuel : Nat) (cs : List Char) :
    value (fuel + 1) (c :: cs) = (number false (c :: cs)).map fun r => (ofNumeral r.1, r.2) := by
  rw [value, skipSpace_cons (isSpace_of_isDigit h)]
  split
  case h_1 he => cases he
  case h_9 he =>
    cases he
    rw [if_pos h]
  all_goals
    next he =>
      cases he
      exact absurd h (by decide)

theorem reads_natural {n : Nat} (h : n < 2 ^ 64) : Reads (integer n) := by
  obtain ⟨c, cs, hc, hd⟩ := exists_cons_decimal n
  have ht : compactChars (integer n) = c :: cs := by rw [compactChars, signed_natural, hc]
  have hn : n ≤ maxSignificand := Nat.le_sub_one_of_lt h
  apply Reads.of_succ (by simp [ht])
  intro fuel rest _ hr
  have hv := number_decimal false hn hr
  rw [hc, List.cons_append] at hv
  rw [ht, List.cons_append, value_of_isDigit hd, hv]
  rfl

theorem plainNumber_negative {n : Nat} (h : 0 < n) (h' : n ≤ 2 ^ 63) (rest : List Char) :
    plainNumber true n rest = .ok (.integer (-n), rest) := by
  rw [plainNumber, if_pos rfl, if_neg]
  rintro (rfl | hlt)
  · exact absurd h (by decide)
  · exact absurd h' (not_le.mpr hlt)

theorem reads_negative {n : Nat} (h : 0 < n) (h' : n ≤ 2 ^ 63) : Reads (integer (-n)) := by
  have ht : compactChars (integer (-n)) = '-' :: (decimal n).toList := by
    rw [compactChars, signed_negative h]
  have hn : n ≤ maxSignificand := h'.trans (by decide)
  apply Reads.of_succ (by simp [ht])
  intro fuel rest _ hr
  rw [ht, List.cons_append, value, skipSpace_cons (by decide)]
  change Except.map _ (number true ((decimal n).toList ++ rest)) = _
  rw [number_decimal true hn hr, plainNumber_negative h h']
  rfl

theorem reads_null : Reads null :=
  .of_succ (by decide) fun _ _ _ _ => rfl

theorem reads_bool (b : Bool) : Reads (bool b) := by
  cases b with
  | true => exact .of_succ (by decide) fun _ _ _ _ => rfl
  | false => exact .of_succ (by decide) fun _ _ _ _ => rfl

theorem reads_string (s : String) : Reads (string s) := by
  refine .of_succ (List.cons_ne_nil _ _) ?_
  intro fuel rest _ _
  rw [compactChars, quote, List.cons_append, List.append_assoc, List.singleton_append, value,
    skipSpace_cons (by decide)]
  change Except.map _ (stringText (s.toList.flatMap escape ++ '"' :: rest)) = _
  rw [stringText_flatMap]
  rfl

theorem Begins.append {j : Json} (h : Begins j) (tail : List Char) :
    ∃ c cs, compactChars j ++ tail = c :: cs ∧ isSpace c = false ∧ c ≠ ']' := by
  obtain ⟨c, cs, hc, hs, hn⟩ := h
  exact ⟨c, cs ++ tail, by rw [hc]; rfl, hs, hn⟩

theorem begins_items {j : Json} (h : Begins j) (items : List Json) (rest : List Char) :
    ∃ c cs, compactItems (j :: items) ++ rest = c :: cs ∧ isSpace c = false ∧ c ≠ ']' := by
  cases items with
  | nil =>
    rw [compactItems, List.append_assoc]
    exact h.append _
  | cons k items =>
    rw [compactItems, List.append_assoc]
    exact h.append _

theorem items_compactItems {items : List Json} (h : ∀ j ∈ items, Begins j ∧ Reads j)
    (hn : items ≠ []) (fuel : Nat) (hf : (compactItems items).length ≤ fuel)
    (before : List Json) (rest : List Char) :
    Json.items fuel before (compactItems items ++ rest) =
      .ok (array (before.reverse ++ items), rest) := by
  induction items generalizing before fuel with
  | nil => exact absurd rfl hn
  | cons j items ih =>
    have hj : Reads j := (h j List.mem_cons_self).2
    cases items with
    | nil =>
      rw [compactItems, List.length_append, List.length_singleton] at hf
      obtain ⟨fuel, rfl⟩ : ∃ n, fuel = n + 1 := ⟨fuel - 1, by omega⟩
      have hv := hj fuel (']' :: rest) (by omega)
        (stops_cons (by decide) (by decide) (by decide) (by decide))
      rw [compactItems, List.append_assoc, List.singleton_append, Json.items, hv]
      simp [skipSpace_cons (show isSpace ']' = false by decide)]
    | cons k items =>
      rw [compactItems, List.length_append, List.length_cons] at hf
      obtain ⟨fuel, rfl⟩ : ∃ n, fuel = n + 1 := ⟨fuel - 1, by omega⟩
      have hv := hj fuel (',' :: (compactItems (k :: items) ++ rest)) (by omega)
        (stops_cons (by decide) (by decide) (by decide) (by decide))
      have hi := ih (fun x hx => h x (List.mem_cons_of_mem j hx)) (List.cons_ne_nil k items)
        fuel (by omega) (j :: before)
      obtain ⟨c, cs, hc, hs, he⟩ := begins_items (h k (by simp)).1 items rest
      rw [compactItems, List.append_assoc, List.cons_append, Json.items, hv]
      rw [hc] at hi ⊢
      simp [skipSpace_cons (show isSpace ',' = false by decide), skipSpace_cons hs, he, hi]

theorem memberName_quote (name : String) (rest : List Char) :
    memberName (quote name ++ ':' :: rest) = .ok (name, rest) := by
  rw [quote, List.cons_append, List.append_assoc, List.singleton_append, memberName,
    stringText_flatMap]
  simp [skipSpace_cons (show isSpace ':' = false by decide)]

theorem members_compactMembers {ms : List (String × Json)} (h : ∀ m ∈ ms, Reads m.2)
    (hn : ms ≠ []) (fuel : Nat) (hf : (compactMembers ms).length ≤ fuel)
    (before : List (String × Json)) (rest : List Char) :
    members fuel before (compactMembers ms ++ rest) =
      .ok (ofMembers (before.reverse ++ ms), rest) := by
  induction ms generalizing before fuel with
  | nil => exact absurd rfl hn
  | cons m ms ih =>
    obtain ⟨name, j⟩ := m
    have hj : Reads j := h _ List.mem_cons_self
    cases ms with
    | nil =>
      rw [compactMembers, List.length_append, List.length_cons, List.length_append,
        List.length_singleton] at hf
      obtain ⟨fuel, rfl⟩ : ∃ n, fuel = n + 1 := ⟨fuel - 1, by omega⟩
      have hv := hj fuel ('\x7d' :: rest) (by omega)
        (stops_cons (by decide) (by decide) (by decide) (by decide))
      rw [compactMembers, List.append_assoc, List.cons_append, List.append_assoc,
        List.singleton_append, members, memberName_quote]
      simp [hv, skipSpace_cons (show isSpace '\x7d' = false by decide)]
    | cons next ms =>
      obtain ⟨name', j'⟩ := next
      rw [compactMembers, List.length_append, List.length_cons, List.length_append,
        List.length_cons] at hf
      obtain ⟨fuel, rfl⟩ : ∃ n, fuel = n + 1 := ⟨fuel - 1, by omega⟩
      have hv := hj fuel (',' :: (compactMembers ((name', j') :: ms) ++ rest)) (by omega)
        (stops_cons (by decide) (by decide) (by decide) (by decide))
      have hi := ih (fun x hx => h x (List.mem_cons_of_mem _ hx)) (List.cons_ne_nil _ ms)
        fuel (by omega) ((name, j) :: before)
      obtain ⟨cs, hc⟩ : ∃ cs, compactMembers ((name', j') :: ms) ++ rest = '"' :: cs := by
        cases ms <;> exact ⟨_, rfl⟩
      rw [compactMembers, List.append_assoc, List.cons_append, List.append_assoc,
        List.cons_append, members, memberName_quote]
      rw [hc] at hi hv ⊢
      simp [hv, hi, skipSpace_cons (show isSpace ',' = false by decide),
        skipSpace_cons (show isSpace '"' = false by decide)]

theorem reads_array {items : List Json} (h : ∀ j ∈ items, Begins j ∧ Reads j) :
    Reads (array items) := by
  refine .of_succ (List.cons_ne_nil _ _) ?_
  intro fuel rest hf _
  rw [compactChars, List.length_cons] at hf
  cases items with
  | nil => rfl
  | cons k items =>
    have hi := items_compactItems h (List.cons_ne_nil k items) fuel (by omega) [] rest
    obtain ⟨c, cs, hc, hs, hn⟩ := begins_items (h k List.mem_cons_self).1 items rest
    rw [compactChars, List.cons_append, value, skipSpace_cons (by decide)]
    rw [hc] at hi ⊢
    simp [skipSpace_cons hs, hn, hi]

theorem reads_object {ms : List (String × Json)} (hs : Members.Sorted ms)
    (h : ∀ m ∈ ms, Reads m.2) : Reads (object ms) := by
  refine .of_succ (List.cons_ne_nil _ _) ?_
  intro fuel rest hf _
  rw [compactChars, List.length_cons] at hf
  cases ms with
  | nil => rfl
  | cons m ms =>
    have hi := members_compactMembers h (List.cons_ne_nil m ms) fuel (by omega) [] rest
    rw [List.reverse_nil, List.nil_append, ofMembers, hs.arrange_eq] at hi
    obtain ⟨cs, hc⟩ : ∃ cs, compactMembers (m :: ms) ++ rest = '"' :: cs := by
      cases ms <;> exact ⟨_, rfl⟩
    rw [compactChars, List.cons_append, value, skipSpace_cons (by decide)]
    rw [hc] at hi ⊢
    simp [skipSpace_cons (show isSpace '"' = false by decide), hi]

theorem Plain.begins {j : Json} (h : Plain j) : Begins j := by
  have hd : ∀ c : Char, c.isDigit = true → c ≠ ']' := by
    rintro c hc rfl
    exact absurd hc (by decide)
  cases h with
  | null => exact ⟨'n', _, rfl, by decide, by decide⟩
  | bool b =>
    cases b with
    | true => exact ⟨'t', _, rfl, by decide, by decide⟩
    | false => exact ⟨'f', _, rfl, by decide, by decide⟩
  | natural _ =>
    obtain ⟨c, cs, hc, hcd⟩ := exists_cons_decimal _
    exact ⟨c, cs, by rw [compactChars, signed_natural, hc], isSpace_of_isDigit hcd, hd c hcd⟩
  | negative hn _ =>
    exact ⟨'-', _, by rw [compactChars, signed_negative hn], by decide, by decide⟩
  | string s => exact ⟨'"', _, rfl, by decide, by decide⟩
  | array _ => exact ⟨'[', _, rfl, by decide, by decide⟩
  | object _ _ => exact ⟨'\x7b', _, rfl, by decide, by decide⟩

theorem Plain.reads {j : Json} (h : Plain j) : Reads j := by
  induction h with
  | null => exact reads_null
  | bool b => exact reads_bool b
  | natural h => exact reads_natural h
  | negative h h' => exact reads_negative h h'
  | string s => exact reads_string s
  | array h ih => exact reads_array fun j hj => ⟨(h j hj).begins, ih j hj⟩
  | object hs _ ih => exact reads_object hs ih

theorem plain_ofMembers {ms : List (String × Json)} (h : ∀ m ∈ ms, Plain m.2) :
    Plain (ofMembers ms) :=
  .object (Members.sorted_arrange ms) fun m hm => h m (Members.mem_arrange hm)

theorem parse_compact {j : Json} (h : Plain j) : parse j.compact = .ok j := by
  have hl : (compactChars j).length ≤ 2 * j.compact.length + 2 := by
    rw [compact, String.length_ofList]
    omega
  have hv := h.reads _ [] hl nofun
  have ht : j.compact.toList = compactChars j := String.toList_ofList
  rw [List.append_nil] at hv
  rw [parse, ht, hv]
  rfl

theorem not_mem_compactItems {items : List Json} (h : ∀ j ∈ items, '\n' ∉ compactChars j) :
    '\n' ∉ compactItems items := by
  induction items with
  | nil => decide
  | cons j items ih =>
    have hj := h j List.mem_cons_self
    cases items with
    | nil => simp [compactItems, hj]
    | cons k items =>
      have hi := ih fun x hx => h x (List.mem_cons_of_mem j hx)
      simp [compactItems, hj, hi]

theorem not_mem_compactMembers {ms : List (String × Json)}
    (h : ∀ m ∈ ms, '\n' ∉ compactChars m.2) : '\n' ∉ compactMembers ms := by
  induction ms with
  | nil => decide
  | cons m ms ih =>
    obtain ⟨name, j⟩ := m
    have hj : '\n' ∉ compactChars j := h _ List.mem_cons_self
    have hq := not_mem_quote name
    cases ms with
    | nil => simp [compactMembers, hq, hj]
    | cons k ms =>
      have hi := ih fun x hx => h x (List.mem_cons_of_mem _ hx)
      simp [compactMembers, hq, hj, hi]

theorem Plain.not_mem_compact {j : Json} (h : Plain j) : '\n' ∉ j.compact.toList := by
  rw [compact, String.toList_ofList]
  induction h with
  | null => decide
  | bool b => cases b <;> decide
  | natural _ =>
    rw [compactChars, signed_natural]
    exact not_mem_decimal _
  | negative hn _ =>
    rw [compactChars, signed_negative hn]
    simp [not_mem_decimal]
  | string s => exact not_mem_quote s
  | array _ ih => simpa [compactChars] using not_mem_compactItems ih
  | object _ _ ih => simpa [compactChars] using not_mem_compactMembers ih

end QualityGate.Json
