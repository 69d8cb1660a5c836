import QualityGate.Text.Lines
import Mathlib.Data.List.Infix

namespace QualityGate.Text.Lines

theorem hasPart_iff (part cs : List Char) : hasPart part cs = true ↔ part <:+: cs := by
  induction cs with
  | nil => simp [hasPart]
  | cons c cs ih =>
    rw [hasPart, Bool.or_eq_true, List.isPrefixOf_iff_prefix, ih, List.infix_cons_iff]

theorem infix_append_iff_of_not_mem {c : Char} {part xs ys : List Char} (h : c ∉ xs) :
    c :: part <:+: xs ++ ys ↔ c :: part <:+: ys := by
  induction xs with
  | nil => rfl
  | cons x xs ih =>
    have hx : c ≠ x := fun hx => h (hx ▸ List.mem_cons_self)
    have hxs : c ∉ xs := fun hxs => h (List.mem_cons_of_mem x hxs)
    rw [List.cons_append, List.infix_cons_iff, ih hxs]
    refine or_iff_right fun hp => ?_
    exact hx (List.cons_prefix_cons.mp hp).1

theorem pieces_ne_nil (cs : List Char) : pieces cs ≠ [] := by
  cases cs with
  | nil => simp [pieces]
  | cons c cs =>
    rw [pieces]
    split
    · simp
    · split <;> simp

theorem pieces_of_not_mem {cs : List Char} (h : '\n' ∉ cs) : pieces cs = [cs] := by
  induction cs with
  | nil => rfl
  | cons c cs ih =>
    have hc : c ≠ '\n' := fun hc => h (hc ▸ List.mem_cons_self)
    have hcs : '\n' ∉ cs := fun hcs => h (List.mem_cons_of_mem c hcs)
    rw [pieces, if_neg hc, ih hcs]

theorem pieces_append_feed (xs ys : List Char) :
    pieces (xs ++ '\n' :: ys) = pieces xs ++ pieces ys := by
  induction xs with
  | nil => rfl
  | cons x xs ih =>
    rw [List.cons_append, pieces, pieces, ih]
    by_cases hx : x = '\n'
    · rw [if_pos hx, if_pos hx, List.cons_append]
    · rw [if_neg hx, if_neg hx]
      obtain ⟨p, ps, hp⟩ := List.exists_cons_of_ne_nil (pieces_ne_nil xs)
      rw [hp]
      rfl

theorem not_mem_of_mem_pieces {cs p : List Char} (h : p ∈ pieces cs) : '\n' ∉ p := by
  induction cs generalizing p with
  | nil => simp_all [pieces]
  | cons c cs ih =>
    rw [pieces] at h
    split at h
    · rcases List.mem_cons.mp h with rfl | h
      · exact List.not_mem_nil
      · exact ih h
    · next hc =>
      obtain ⟨q, ps, hq⟩ := List.exists_cons_of_ne_nil (pieces_ne_nil cs)
      rw [hq] at h ih
      rcases List.mem_cons.mp h with rfl | h
      · have hn : '\n' ∉ q := ih List.mem_cons_self
        simpa [hn] using Ne.symm hc
      · exact ih (List.mem_cons_of_mem q h)

theorem pieces_join {ls : List (List Char)} (hn : ls ≠ []) :
    pieces (['\n'].intercalate ls) = ls.flatMap pieces := by
  induction ls with
  | nil => exact absurd rfl hn
  | cons l ls ih =>
    cases ls with
    | nil => simp [List.intercalate]
    | cons l' ls =>
      have hls : pieces (['\n'].intercalate (l' :: ls)) = (l' :: ls).flatMap pieces :=
        ih (List.cons_ne_nil l' ls)
      rw [List.intercalate_cons_cons, List.append_assoc, List.singleton_append,
        pieces_append_feed, hls, ← List.flatMap_cons]

theorem flatMap_pieces {ls : List (List Char)} (h : ∀ l ∈ ls, '\n' ∉ l) :
    ls.flatMap pieces = ls := by
  induction ls with
  | nil => rfl
  | cons l ls ih =>
    have hl : pieces l = [l] := pieces_of_not_mem (h l List.mem_cons_self)
    rw [List.flatMap_cons, hl, ih fun x hx => h x (List.mem_cons_of_mem l hx),
      List.singleton_append]

theorem pieces_intercalate {ls : List (List Char)} (hn : ls ≠ []) (h : ∀ l ∈ ls, '\n' ∉ l) :
    pieces (['\n'].intercalate ls) = ls := by
  rw [pieces_join hn, flatMap_pieces h]

theorem intercalate_pieces (cs : List Char) : ['\n'].intercalate (pieces cs) = cs := by
  induction cs with
  | nil => rfl
  | cons c cs ih =>
    obtain ⟨p, ps, hp⟩ := List.exists_cons_of_ne_nil (pieces_ne_nil cs)
    rw [hp] at ih
    rw [pieces, hp]
    split
    · next hc => rw [List.intercalate_cons_cons, ih, hc, List.nil_append, List.singleton_append]
    · cases ps with
      | nil =>
        simp only [List.intercalate_singleton] at ih ⊢
        rw [ih]
      | cons q ps =>
        rw [List.intercalate_cons_cons] at ih ⊢
        rw [List.cons_append, List.cons_append, ih]

theorem append_feed_inj {xs xs' ys ys' : List Char} (h : '\n' ∉ xs) (h' : '\n' ∉ xs')
    (he : xs ++ '\n' :: ys = xs' ++ '\n' :: ys') : xs = xs' ∧ ys = ys' := by
  have hp : pieces (xs ++ '\n' :: ys) = pieces (xs' ++ '\n' :: ys') := congrArg pieces he
  rw [pieces_append_feed, pieces_append_feed, pieces_of_not_mem h, pieces_of_not_mem h'] at hp
  obtain ⟨hx, hy⟩ := List.cons_eq_cons.mp hp
  refine ⟨hx, ?_⟩
  rw [← intercalate_pieces ys, ← intercalate_pieces ys']
  exact congrArg _ hy

theorem pieces_text {ls : List String} (hn : ls ≠ []) (h : ∀ l ∈ ls, '\n' ∉ l.toList) :
    pieces ("\n".intercalate ls).toList = ls.map String.toList := by
  have hm : ∀ l ∈ ls.map String.toList, '\n' ∉ l := by
    intro l hl
    obtain ⟨s, hs, rfl⟩ := List.mem_map.mp hl
    exact h s hs
  rw [String.toList_intercalate]
  exact pieces_intercalate (by simpa using hn) hm

theorem dropReturn_of_getLast? {cs : List Char} (h : cs.getLast? ≠ some '\r') :
    dropReturn cs = cs :=
  if_neg h

theorem dropReturn_concat (cs : List Char) : dropReturn (cs ++ ['\r']) = cs := by
  simp [dropReturn]

theorem dropReturn_cases (cs : List Char) :
    dropReturn cs = cs ∨ cs = dropReturn cs ++ ['\r'] := by
  by_cases h : cs.getLast? = some '\r'
  · obtain ⟨ds, rfl⟩ := List.getLast?_eq_some_iff.mp h
    exact .inr (by rw [dropReturn_concat])
  · exact .inl (dropReturn_of_getLast? h)

theorem dropReturn_isPrefix (cs : List Char) : dropReturn cs <+: cs := by
  rcases dropReturn_cases cs with h | h
  · rw [h]
  · exact ⟨['\r'], h.symm⟩

theorem ofPieces_concat (ps : List (List Char)) (p : List Char) :
    ofPieces (ps ++ [p]) = ps.map dropReturn ++ if p.isEmpty then [] else [p] := by
  induction ps with
  | nil => rfl
  | cons q ps ih =>
    obtain ⟨r, rs, hr⟩ := List.exists_cons_of_ne_nil (List.concat_ne_nil p ps)
    rw [List.cons_append, hr, ofPieces, ← hr, ih, List.map_cons, List.cons_append]

theorem lines_append_feed {xs : List Char} (h : '\n' ∉ xs) (ys : List Char) :
    lines (xs ++ '\n' :: ys) = dropReturn xs :: lines ys := by
  obtain ⟨p, ps, hp⟩ := List.exists_cons_of_ne_nil (pieces_ne_nil ys)
  rw [lines, lines, pieces_append_feed, pieces_of_not_mem h, hp]
  rfl

theorem not_mem_of_mem_lines {cs l : List Char} (h : l ∈ lines cs) : '\n' ∉ l := by
  obtain ⟨ps, p, hp⟩ : ∃ ps p, pieces cs = ps ++ [p] :=
    (List.eq_nil_or_concat' _).resolve_left (pieces_ne_nil cs)
  rw [lines, hp, ofPieces_concat, List.mem_append] at h
  have hps : ∀ q ∈ ps ++ [p], '\n' ∉ q := fun q hq => not_mem_of_mem_pieces (hp ▸ hq)
  rcases h with h | h
  · obtain ⟨q, hq, rfl⟩ := List.mem_map.mp h
    exact fun hm => hps q (List.mem_append_left _ hq) ((dropReturn_isPrefix q).subset hm)
  · split at h
    · cases h
    · exact hps l (List.mem_append_right ps h)

theorem lines_of_not_mem {cs : List Char} (h : '\n' ∉ cs) (hn : cs ≠ []) : lines cs = [cs] := by
  rw [lines, pieces_of_not_mem h, ofPieces, if_neg]
  rwa [List.isEmpty_iff]

end QualityGate.Text.Lines
