import QualityGate.Diagnostic.Rule
import QualityGate.Text.Blank
import Mathlib.Data.List.TakeDrop
import Mathlib.Data.List.TakeWhile

namespace QualityGate.Rule

/-- After each opening parenthesis there is a closing one. -/
def Closed : List Char → Prop
  | [] => True
  | c :: cs => (c = '(' → ')' ∈ cs) ∧ Closed cs

instance instDecidableClosed : (cs : List Char) → Decidable (Closed cs)
  | [] => .isTrue trivial
  | c :: cs =>
    have := instDecidableClosed cs
    inferInstanceAs (Decidable ((c = '(' → ')' ∈ cs) ∧ Closed cs))

theorem closed_append_of_not_mem {xs : List Char} (ys : List Char) (h : '(' ∉ xs) :
    Closed (xs ++ ys) ↔ Closed ys := by
  induction xs with
  | nil => rfl
  | cons x xs ih =>
    have hx : x ≠ '(' := fun hx => h (hx ▸ List.mem_cons_self)
    have hxs : '(' ∉ xs := fun hxs => h (List.mem_cons_of_mem x hxs)
    simp [Closed, hx, ih hxs]

theorem closed_append_closing (xs ys : List Char) : Closed (xs ++ ')' :: ys) ↔ Closed ys := by
  induction xs with
  | nil => simp [Closed]
  | cons x xs ih => simp [Closed, ih]

theorem closed_iff_of_not_mem {cs : List Char} (h : ')' ∉ cs) : Closed cs ↔ '(' ∉ cs := by
  induction cs with
  | nil => simp [Closed]
  | cons c cs ih =>
    have hcs : ')' ∉ cs := fun hcs => h (List.mem_cons_of_mem c hcs)
    rw [Closed, ih hcs, List.mem_cons]
    constructor
    · rintro ⟨hc, hn⟩ (rfl | hm)
      · exact hcs (hc rfl)
      · exact hn hm
    · intro hn
      exact ⟨fun hc => absurd (.inl hc.symm) hn, fun hm => hn (.inr hm)⟩

theorem closed_concat_iff (cs : List Char) {c : Char} (ho : c ≠ '(') (hc : c ≠ ')') :
    Closed (cs ++ [c]) ↔ Closed cs := by
  induction cs with
  | nil => simp [Closed, ho]
  | cons x xs ih => simp [Closed, ih, hc.symm]

theorem exists_of_not_closed {cs : List Char} (h : ¬ Closed cs) :
    ∃ p r, cs = p ++ '(' :: r ∧ Closed p ∧ ')' ∉ r := by
  induction cs with
  | nil => exact absurd trivial h
  | cons c cs ih =>
    by_cases hc : c = '(' → ')' ∈ cs
    · obtain ⟨p, r, rfl, hp, hr⟩ := ih fun hcs => h ⟨hc, hcs⟩
      exact ⟨c :: p, r, rfl, ⟨fun ho => by simpa [hr] using hc ho, hp⟩, hr⟩
    · obtain ⟨rfl, hr⟩ := Classical.not_imp.mp hc
      exact ⟨[], cs, rfl, trivial, hr⟩

theorem exists_tail (cs : List Char) :
    ∃ before tail, cs = before ++ tail ∧ ')' ∉ tail ∧
      (before = [] ∨ ∃ b, before = b ++ [')']) := by
  induction cs with
  | nil => exact ⟨[], [], rfl, List.not_mem_nil, .inl rfl⟩
  | cons c cs ih =>
    obtain ⟨before, tail, rfl, ht, rfl | ⟨b, rfl⟩⟩ := ih
    · by_cases hc : c = ')'
      · exact ⟨[c], tail, rfl, ht, .inr ⟨[], by rw [hc]; rfl⟩⟩
      · exact ⟨[], c :: tail, rfl, by simpa [ht] using Ne.symm hc, .inl rfl⟩
    · exact ⟨c :: (b ++ [')']), tail, rfl, ht, .inr ⟨c :: b, rfl⟩⟩

theorem closed_append_iff {before tail : List Char} (ht : ')' ∉ tail)
    (hb : before = [] ∨ ∃ b, before = b ++ [')']) : Closed (before ++ tail) ↔ '(' ∉ tail := by
  rcases hb with rfl | ⟨b, rfl⟩
  · exact closed_iff_of_not_mem ht
  · rw [List.append_assoc, List.singleton_append, closed_append_closing, closed_iff_of_not_mem ht]

theorem takeWhile_reverse {before tail : List Char} (ht : ')' ∉ tail)
    (hb : before = [] ∨ ∃ b, before = b ++ [')']) :
    (before ++ tail).reverse.takeWhile (· ≠ ')') = tail.reverse := by
  have hw : ∀ c ∈ tail.reverse, decide (c ≠ ')') = true := by
    intro c hc
    exact decide_eq_true fun h => ht (h ▸ List.mem_reverse.mp hc)
  rw [List.reverse_append, List.takeWhile_append_of_pos hw]
  rcases hb with rfl | ⟨b, rfl⟩
  · simp
  · simp

theorem matchAt?_eq_some_iff (cs rule : List Char) :
    matchAt? cs = some rule ↔ rule ≠ [] ∧ ')' ∉ rule ∧ cs = '(' :: rule ++ [')'] := by
  constructor
  · intro h
    unfold matchAt? at h
    split at h
    · next cs =>
      rw [List.span_eq_takeWhile_dropWhile] at h
      split at h
      · cases h
      · next hn hs =>
        cases h
        obtain ⟨ht, hd⟩ := Prod.mk.inj hs
        refine ⟨hn, fun hm => ?_, ?_⟩
        · rw [← ht] at hm
          simpa using List.mem_takeWhile_imp hm
        · rw [List.cons_append, ← ht, ← hd, List.takeWhile_append_dropWhile]
      · cases h
    · cases h
  · rintro ⟨hn, hc, rfl⟩
    have hw : ∀ c ∈ rule, decide (c ≠ ')') = true :=
      fun c hm => decide_eq_true fun h => hc (h ▸ hm)
    have hs : (rule ++ [')']).span (· ≠ ')') = (rule, [')']) := by
      rw [List.span_eq_takeWhile_dropWhile, List.takeWhile_append_of_pos hw,
        List.dropWhile_append_of_pos hw]
      simp
    rw [List.cons_append, matchAt?, hs]
    cases rule with
    | nil => exact absurd rfl hn
    | cons d ds => rfl

/-- The leftmost match opens with the first parenthesis that has no closing one after it, the last
one apart. -/
theorem trailingChars?_eq_some_iff (message rule : List Char) :
    trailingChars? message = some rule ↔
      rule ≠ [] ∧ ')' ∉ rule ∧ ∃ p, message = p ++ '(' :: rule ++ [')'] ∧ Closed p := by
  induction message with
  | nil => simp [trailingChars?]
  | cons c cs ih =>
    rw [trailingChars?]
    constructor
    · intro h
      split at h
      · next hm =>
        cases h
        obtain ⟨hn, hc, he⟩ := (matchAt?_eq_some_iff _ rule).mp hm
        exact ⟨hn, hc, [], he, trivial⟩
      · next hm =>
        obtain ⟨hn, hc, p, rfl, hp⟩ := ih.mp h
        refine ⟨hn, hc, c :: p, rfl, fun ho => ?_, hp⟩
        by_contra hx
        -- the pattern would match right here, with all that follows up to the end
        have ht : matchAt? (c :: (p ++ '(' :: rule ++ [')'])) = some (p ++ '(' :: rule) :=
          (matchAt?_eq_some_iff _ _).mpr ⟨by simp, by simp [hx, hc], by simp [ho]⟩
        rw [hm] at ht
        cases ht
    · rintro ⟨hn, hc, p, he, hp⟩
      cases p with
      | nil => rw [(matchAt?_eq_some_iff _ rule).mpr ⟨hn, hc, he⟩]
      | cons d p =>
        rw [List.cons_append, List.cons_append] at he
        obtain ⟨rfl, rfl⟩ := List.cons.inj he
        have hm : matchAt? (c :: (p ++ '(' :: rule ++ [')'])) = none := by
          rw [Option.eq_none_iff_forall_ne_some]
          intro r hr
          obtain ⟨-, hcr, hr⟩ := (matchAt?_eq_some_iff _ r).mp hr
          obtain ⟨hco, hr⟩ := List.cons.inj hr
          rw [← List.append_cancel_right hr] at hcr
          exact hcr (List.mem_append_left _ (hp.1 hco))
        rw [hm]
        exact ih.mpr ⟨hn, hc, p, rfl, hp.2⟩

theorem trailing?_of_blank {message : String} (h : Text.Blank.isBlankText message = true) :
    trailing? message = none := by
  rw [trailing?, Option.map_eq_none_iff, Option.eq_none_iff_forall_ne_some]
  intro rule hr
  obtain ⟨-, -, p, hp, -⟩ := (trailingChars?_eq_some_iff _ rule).mp hr
  have hb := List.all_eq_true.mp h ')' (by simp [hp])
  exact absurd hb (by decide)

end QualityGate.Rule
