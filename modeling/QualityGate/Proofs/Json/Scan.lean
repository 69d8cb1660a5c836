import Mathlib.Tactic.SplitIfs
import QualityGate.Json.Print
import QualityGate.Json.Scan
import QualityGate.Proofs.Text.Digits

namespace QualityGate.Json

open Text.Digits

theorem stringChars_escaped {before cs rest : List Char} {c : Char}
    (h : escaped cs = .ok (c, rest)) :
    stringChars before ('\\' :: cs) = stringChars (c :: before) rest := by
  rw [stringChars]
  split
  · next he =>
    rw [h] at he
    cases he
  · next he =>
    rw [h] at he
    cases he
    rfl

theorem stringChars_plain {before rest : List Char} {c : Char} (hq : c ≠ '"') (hb : c ≠ '\\')
    (hc : ¬ c.toNat < 0x20) : stringChars before (c :: rest) = stringChars (c :: before) rest := by
  rw [stringChars.eq_def]
  split
  · next he => cases he
  · next he =>
    cases he
    exact absurd rfl hq
  · next he =>
    cases he
    exact absurd rfl hb
  · next he =>
    cases he
    rw [if_neg hc]

theorem hex_four {n : Nat} (h : n < 32) :
    hex 4 n = ['0', '0', Nat.digitChar (n / 16), Nat.digitChar (n % 16)] := by
  rw [hex, hexBackward]
  split_ifs with hn
  · rw [Nat.div_eq_of_lt hn]
    rfl
  · rw [hexBackward, if_pos (by omega), Nat.mod_eq_of_lt (by omega : n / 16 < 16)]
    rfl

theorem natural?_four {n : Nat} (h : n < 32) :
    natural? 16 ['0', '0', Nat.digitChar (n / 16), Nat.digitChar (n % 16)] = some n := by
  revert n
  decide

theorem hexFour_hex {n : Nat} (h : n < 32) (rest : List Char) :
    hexFour (hex 4 n ++ rest) = .ok (n, rest) := by
  rw [hex_four h]
  simp only [List.cons_append, List.nil_append, hexFour, natural?_four h]

theorem escaped_hex {c : Char} (h : c.toNat < 32) (rest : List Char) :
    escaped ('u' :: (hex 4 c.toNat ++ rest)) = .ok (c, rest) := by
  have ht : isTrailingSurrogate c.toNat = false := by
    simp only [isTrailingSurrogate, Bool.and_eq_false_iff, decide_eq_false_iff_not]
    omega
  have hl : isLeadingSurrogate c.toNat = false := by
    simp only [isLeadingSurrogate, Bool.and_eq_false_iff, decide_eq_false_iff_not]
    omega
  change unicodeEscape (hex 4 c.toNat ++ rest) = _
  rw [unicodeEscape, hexFour_hex h]
  simp only [bind, Except.bind, ht, hl, Bool.false_eq_true, if_false, pure, Except.pure,
    Char.ofNat_toNat]

theorem stringChars_escape (before rest : List Char) (c : Char) :
    stringChars before (escape c ++ rest) = stringChars (c :: before) rest := by
  unfold escape
  split_ifs with h₁ h₂ h₃ h₄ h₅ h₆ h₇ h₈
  · exact stringChars_escaped (by subst h₁; rfl)
  · exact stringChars_escaped (by subst h₂; rfl)
  · exact stringChars_escaped (by subst h₃; rfl)
  · exact stringChars_escaped (by subst h₄; rfl)
  · exact stringChars_escaped (by subst h₅; rfl)
  · exact stringChars_escaped (by subst h₆; rfl)
  · exact stringChars_escaped (by subst h₇; rfl)
  · exact stringChars_escaped (escaped_hex h₈ rest)
  · exact stringChars_plain h₁ h₂ h₈

theorem stringChars_flatMap (before cs rest : List Char) :
    stringChars before (cs.flatMap escape ++ '"' :: rest) = .ok (before.reverse ++ cs, rest) := by
  induction cs generalizing before with
  | nil =>
    rw [List.flatMap_nil, List.nil_append, stringChars, List.append_nil]
  | cons c cs ih =>
    rw [List.flatMap_cons, List.append_assoc, stringChars_escape, ih, List.reverse_cons,
      List.append_assoc, List.singleton_append]

theorem stringText_flatMap (s : String) (rest : List Char) :
    stringText (s.toList.flatMap escape ++ '"' :: rest) = .ok (s, rest) := by
  rw [stringText, stringChars_flatMap, List.reverse_nil, List.nil_append]
  exact congrArg (fun t => Except.ok (t, rest)) String.ofList_toList

theorem not_mem_escape (c : Char) : '\n' ∉ escape c := by
  unfold escape
  split_ifs with h₁ h₂ h₃ h₄ h₅ h₆ h₇ h₈
  any_goals decide
  · simp [hex_four h₈]
  · simpa using Ne.symm h₃

theorem not_mem_quote (s : String) : '\n' ∉ quote s := by
  have hs : '\n' ∉ s.toList.flatMap escape := by
    intro h
    obtain ⟨c, -, hc⟩ := List.mem_flatMap.mp h
    exact not_mem_escape c hc
  simp [quote, hs]

def Stops (cs : List Char) : Prop :=
  ∀ c ∈ cs.head?, c.isDigit = false ∧ c ≠ '.' ∧ c ≠ 'e' ∧ c ≠ 'E'

theorem stops_cons {c : Char} {cs : List Char} (h : c.isDigit = false) (hp : c ≠ '.')
    (he : c ≠ 'e') (hE : c ≠ 'E') : Stops (c :: cs) := by
  rintro d ⟨⟩
  exact ⟨h, hp, he, hE⟩

theorem startsWithDigit_of_stops {cs : List Char} (h : Stops cs) : startsWithDigit cs = false := by
  cases cs with
  | nil => rfl
  | cons c cs => exact (h c rfl).1

theorem valueIn?_of_isDigit {c : Char} (h : c.isDigit = true) :
    valueIn? 10 c = some (c.toNat - '0'.toNat) := by
  simp only [Char.isDigit, Bool.and_eq_true, decide_eq_true_eq] at h
  have hl : (48 : Nat) ≤ c.toNat := h.1
  have hr : c.toNat ≤ 57 := h.2
  have hv : value? c = some (c.toNat - '0'.toNat) := if_pos h
  have hlt : c.toNat - '0'.toNat < 10 := by
    change c.toNat - 48 < 10
    omega
  simp only [valueIn?, hv, Option.filter_some, hlt, decide_true, if_true]

theorem valueIn?_of_not_isDigit {c : Char} (h : c.isDigit = false) : valueIn? 10 c = none := by
  have hn : ¬ ('0' ≤ c ∧ c ≤ '9') := by
    intro hc
    have hd : c.isDigit = true := by
      simp only [Char.isDigit, Bool.and_eq_true, decide_eq_true_eq]
      exact hc
    rw [h] at hd
    cases hd
  rw [valueIn?, Option.filter_eq_none_iff]
  intro v hv
  unfold value? at hv
  rw [if_neg hn] at hv
  split_ifs at hv
  all_goals
    cases hv
    simp only [decide_eq_true_eq]
    omega

theorem le_ofDigitChars (ds : List Char) (n : Nat) : n ≤ Nat.ofDigitChars 10 ds n := by
  induction ds generalizing n with
  | nil => exact Nat.le_refl n
  | cons d ds ih =>
    rw [Nat.ofDigitChars_cons]
    have h := ih (10 * n + (d.toNat - '0'.toNat))
    omega

theorem takeDigits_append {ds rest : List Char} {n count : Nat} (hd : ∀ c ∈ ds, c.isDigit = true)
    (hr : Stops rest) (hn : Nat.ofDigitChars 10 ds n ≤ maxSignificand) :
    takeDigits n count (ds ++ rest) = (Nat.ofDigitChars 10 ds n, count + ds.length, rest) := by
  induction ds generalizing n count with
  | nil =>
    cases rest with
    | nil => rfl
    | cons c cs =>
      have hv : valueIn? 10 c = none := valueIn?_of_not_isDigit (hr c rfl).1
      simp only [List.nil_append, takeDigits, hv]
      rfl
  | cons d ds ih =>
    have hv := valueIn?_of_isDigit (hd d List.mem_cons_self)
    rw [Nat.ofDigitChars_cons] at hn
    have hle := Nat.le_trans (le_ofDigitChars ds _) hn
    rw [List.cons_append, takeDigits, hv]
    dsimp only
    rw [if_pos hle, ih (fun c hc => hd c (List.mem_cons_of_mem d hc)) hn, Nat.ofDigitChars_cons,
      List.length_cons]
    simp only [Nat.add_comm, Nat.add_left_comm]

theorem exists_toDigits {n : Nat} (h : 0 < n) : ∃ c cs, Nat.toDigits 10 n = c :: cs ∧ c ≠ '0' := by
  induction n using Nat.strongRecOn with
  | ind n ih =>
    rw [Nat.toDigits_eq_if (by decide)]
    split_ifs with hn
    · exact ⟨_, [], rfl, by rw [ne_eq, Nat.digitChar_eq_zero]; omega⟩
    · obtain ⟨c, cs, hc, h0⟩ := ih (n / 10) (by omega) (by omega)
      exact ⟨c, _, by rw [hc]; rfl, h0⟩

theorem number_decimal (negative : Bool) {n : Nat} {rest : List Char} (hn : n ≤ maxSignificand)
    (hr : Stops rest) :
    number negative ((decimal n).toList ++ rest) = plainNumber negative n rest := by
  have hs := startsWithDigit_of_stops hr
  by_cases h0 : n = 0
  · subst h0
    have hz : (decimal 0).toList = ['0'] := by rw [toList_decimal, Nat.toDigits_zero]
    rw [hz, List.singleton_append, number, hs, if_neg Bool.false_ne_true]
    · rintro r rfl
      exact (hr '.' rfl).2.1 rfl
    · rintro r rfl
      exact (hr 'e' rfl).2.2.1 rfl
    · rintro r rfl
      exact (hr 'E' rfl).2.2.2 rfl
  · obtain ⟨c, cs, hc, hz⟩ := exists_toDigits (Nat.pos_of_ne_zero h0)
    have hd : ∀ d ∈ (decimal n).toList, d.isDigit = true := fun d hd => isDigit_of_mem_decimal hd
    have hv : Nat.ofDigitChars 10 (decimal n).toList 0 = n := by
      rw [toList_decimal, Nat.ofDigitChars_ten_toDigits]
    have ht : takeDigits 0 0 ((decimal n).toList ++ rest) =
        (n, 0 + (decimal n).toList.length, rest) := by
      rw [takeDigits_append hd hr (by rwa [hv]), hv]
    rw [toList_decimal] at hd ht ⊢
    have hcd : c.isDigit = true := hd c (by rw [hc]; exact List.mem_cons_self)
    rw [hc, List.cons_append] at ht ⊢
    rw [number, if_pos hcd, ht]
    · dsimp only
      rw [hs, if_neg Bool.false_ne_true]
      split
      · exact absurd rfl (hr '.' rfl).2.1
      · exact absurd rfl (hr 'e' rfl).2.2.1
      · exact absurd rfl (hr 'E' rfl).2.2.2
      · rfl
    · exact hz

end QualityGate.Json
