import QualityGate.Text.Utf8
import Mathlib.Logic.Basic
import Mathlib.Tactic.SplitIfs

namespace QualityGate.Text.Utf8

theorem loop_toList (bs : ByteArray) (i : Nat) (taken : List UInt8) :
    ByteArray.toList.loop bs i taken = taken.reverse ++ bs.data.toList.drop i := by
  fun_induction ByteArray.toList.loop bs i taken with
  | case1 i taken hi ih =>
    have hl : i < bs.data.toList.length := hi
    have hg : bs.get! i = bs.data.toList[i] := by
      rw [Array.getElem_toList]
      exact getElem!_pos bs.data i hi
    rw [ih, List.drop_eq_getElem_cons hl, hg,
      List.reverse_cons, List.append_assoc, List.singleton_append]
  | case2 i taken hi =>
    have hl : bs.data.toList.length ≤ i := Nat.le_of_not_lt hi
    rw [List.drop_eq_nil_of_le hl, List.append_nil]

theorem encode_eq_flatMap (s : String) : encode s = s.toList.flatMap String.utf8EncodeChar := by
  have hs : s.toUTF8 = (s.toList.flatMap String.utf8EncodeChar).toByteArray := by
    calc s.toUTF8
        = (String.ofList s.toList).toByteArray := by
          rw [String.ofList_toList, String.toUTF8_eq_toByteArray]
      _ = (s.toList.flatMap String.utf8EncodeChar).toByteArray := String.toByteArray_ofList
  rw [encode, hs, ByteArray.toList, loop_toList, List.toList_data_toByteArray]
  rfl

theorem shape_eq (b : UInt8) :
    shape b =
      if b.toNat < 0x80 then some (0, 0x80, 0xBF)
      else if b.toNat < 0xC2 then none
      else if b.toNat < 0xE0 then some (1, 0x80, 0xBF)
      else if b.toNat = 0xE0 then some (2, 0xA0, 0xBF)
      else if b.toNat = 0xED then some (2, 0x80, 0x9F)
      else if b.toNat < 0xF0 then some (2, 0x80, 0xBF)
      else if b.toNat = 0xF0 then some (3, 0x90, 0xBF)
      else if b.toNat < 0xF4 then some (3, 0x80, 0xBF)
      else if b.toNat = 0xF4 then some (3, 0x80, 0x8F)
      else none := by
  simp only [shape, UInt8.lt_iff_toNat_lt, ← UInt8.toNat_inj]
  rfl

theorem complete_succ (n : Nat) (low high : UInt8) (point : Nat) (b : UInt8) (bs : List UInt8) :
    complete (n + 1) low high point (b :: bs) =
      if low.toNat ≤ b.toNat ∧ b.toNat ≤ high.toNat then
        complete n 0x80 0xBF (point * 0x40 + b.toNat % 0x40) bs
      else (none, b :: bs) := by
  simp only [complete, UInt8.le_iff_toNat_le]

theorem toNat_ofNat {n : Nat} (h : n < 256) : (UInt8.ofNat n).toNat = n := by
  rw [UInt8.toNat_ofNat', Nat.mod_eq_of_lt h]

theorem complete_tail {n point d : Nat} {low high : UInt8} (hd : d < 64)
    (hl : low.toNat ≤ d + 128) (hh : d + 128 ≤ high.toNat) (bs : List UInt8) :
    complete (n + 1) low high point (UInt8.ofNat (d + 128) :: bs) =
      complete n 0x80 0xBF (point * 64 + d) bs := by
  have hb := toNat_ofNat (n := d + 128) (by omega)
  have hm : (d + 128) % 0x40 = d := by omega
  rw [complete_succ, hb, if_pos ⟨hl, hh⟩, hm]

theorem exists_of_complete {n point p : Nat} {low high : UInt8} {bs rest : List UInt8}
    (hlow : 128 ≤ low.toNat) (hhigh : high.toNat ≤ 191)
    (h : complete (n + 1) low high point bs = (some p, rest)) :
    ∃ d bs', d < 64 ∧ low.toNat ≤ d + 128 ∧ d + 128 ≤ high.toNat ∧
      bs = UInt8.ofNat (d + 128) :: bs' ∧
      complete n 0x80 0xBF (point * 64 + d) bs' = (some p, rest) := by
  cases bs with
  | nil => cases h
  | cons b bs =>
    rw [complete_succ] at h
    split_ifs at h with hb
    · have hd : b.toNat % 0x40 + 128 = b.toNat := by omega
      refine ⟨b.toNat % 0x40, bs, Nat.mod_lt _ (by decide), ?_, ?_, ?_, h⟩
      · exact hd.symm ▸ hb.1
      · exact hd.symm ▸ hb.2
      · rw [hd, UInt8.ofNat_toNat]
    · cases h

theorem eq_of_complete {point p : Nat} {low high : UInt8} {bs rest : List UInt8}
    (h : complete 0 low high point bs = (some p, rest)) : point = p ∧ bs = rest := by
  rw [complete] at h
  exact ⟨Option.some.inj (Prod.mk.inj h).1, (Prod.mk.inj h).2⟩

theorem exists_shape_three {v : Nat} (h : 0x800 ≤ v) (h' : v < 0x10000)
    (hv : v < 0xD800 ∨ 0xDFFF < v) :
    ∃ low high, shape (UInt8.ofNat (v / 4096 % 16 + 224)) = some (2, low, high) ∧
      low.toNat ≤ v / 64 % 64 + 128 ∧ v / 64 % 64 + 128 ≤ high.toNat := by
  rw [shape_eq, toNat_ofNat (by omega), if_neg (by omega), if_neg (by omega), if_neg (by omega)]
  by_cases he : v / 4096 % 16 = 0
  · rw [if_pos (by omega)]
    exact ⟨0xA0, 0xBF, rfl, by change 160 ≤ _; omega, by change _ ≤ 191; omega⟩
  · rw [if_neg (by omega)]
    by_cases hd : v / 4096 % 16 = 13
    · rw [if_pos (by omega)]
      exact ⟨0x80, 0x9F, rfl, Nat.le_add_left _ _, by change _ ≤ 159; omega⟩
    · rw [if_neg (by omega), if_pos (by omega)]
      exact ⟨0x80, 0xBF, rfl, Nat.le_add_left _ _, by change _ ≤ 191; omega⟩

theorem exists_shape_four {v : Nat} (h : 0x10000 ≤ v) (h' : v < 0x110000) :
    ∃ low high, shape (UInt8.ofNat (v / 262144 % 8 + 240)) = some (3, low, high) ∧
      low.toNat ≤ v / 4096 % 64 + 128 ∧ v / 4096 % 64 + 128 ≤ high.toNat := by
  rw [shape_eq, toNat_ofNat (by omega), if_neg (by omega), if_neg (by omega), if_neg (by omega),
    if_neg (by omega), if_neg (by omega), if_neg (by omega)]
  by_cases he : v / 262144 % 8 = 0
  · rw [if_pos (by omega)]
    exact ⟨0x90, 0xBF, rfl, by change 144 ≤ _; omega, by change _ ≤ 191; omega⟩
  · rw [if_neg (by omega)]
    by_cases hd : v / 262144 % 8 = 4
    · rw [if_neg (by omega), if_pos (by omega)]
      exact ⟨0x80, 0x8F, rfl, Nat.le_add_left _ _, by change _ ≤ 143; omega⟩
    · rw [if_pos (by omega)]
      exact ⟨0x80, 0xBF, rfl, Nat.le_add_left _ _, by change _ ≤ 191; omega⟩

theorem next_of_encode {c : Char} {b : UInt8} {bs : List UInt8}
    (h : String.utf8EncodeChar c = b :: bs) (rest : List UInt8) :
    next b (bs ++ rest) = (some c, rest) := by
  have hc : Char.ofNat c.val.toNat = c := Char.ofNat_toNat c
  have hv : c.val.toNat < 0xD800 ∨ 0xDFFF < c.val.toNat ∧ c.val.toNat < 0x110000 := c.valid
  have hlow : (0x80 : UInt8).toNat = 128 := rfl
  have hhigh : (0xBF : UInt8).toNat = 191 := rfl
  generalize hn : c.val.toNat = v at *
  simp only [String.utf8EncodeChar, hn] at h
  split_ifs at h with h₁ h₂ h₃
  all_goals obtain ⟨rfl, rfl⟩ := List.cons.inj h
  · have hb := toNat_ofNat (n := v) (by omega)
    have hs : shape (UInt8.ofNat v) = some (0, 0x80, 0xBF) := by
      rw [shape_eq, hb, if_pos (by omega)]
    simp only [next, hs, leading, hb, complete, Option.map_some, hc, List.nil_append]
  · have hb := toNat_ofNat (n := v / 64 % 32 + 192) (by omega)
    have hs : shape (UInt8.ofNat (v / 64 % 32 + 192)) = some (1, 0x80, 0xBF) := by
      rw [shape_eq, hb, if_neg (by omega), if_neg (by omega), if_pos (by omega)]
    have hp : (v / 64 % 32 + 192) % 32 * 64 + v % 64 = v := by omega
    simp only [next, hs, leading, hb, List.cons_append]
    rw [complete_tail (by omega) (by omega) (by omega), complete]
    simp only [hp, Option.map_some, hc, List.nil_append]
  · have hb := toNat_ofNat (n := v / 4096 % 16 + 224) (by omega)
    obtain ⟨low, high, hs, hl, hh⟩ :=
      exists_shape_three (v := v) (by omega) (by omega) (by omega)
    have hp : ((v / 4096 % 16 + 224) % 16 * 64 + v / 64 % 64) * 64 + v % 64 = v := by omega
    simp only [next, hs, leading, hb, List.cons_append]
    rw [complete_tail (by omega) hl hh, complete_tail (by omega) (by omega) (by omega), complete]
    simp only [hp, Option.map_some, hc, List.nil_append]
  · have hb := toNat_ofNat (n := v / 262144 % 8 + 240) (by omega)
    obtain ⟨low, high, hs, hl, hh⟩ := exists_shape_four (v := v) (by omega) (by omega)
    have hp : (((v / 262144 % 8 + 240) % 8 * 64 + v / 4096 % 64) * 64 + v / 64 % 64) * 64 +
        v % 64 = v := by omega
    simp only [next, hs, leading, hb, List.cons_append]
    rw [complete_tail (by omega) hl hh, complete_tail (by omega) (by omega) (by omega),
      complete_tail (by omega) (by omega) (by omega), complete]
    simp only [hp, Option.map_some, hc, List.nil_append]

theorem utf8EncodeChar_ofNat {v : Nat} (hv : v < 0xD800 ∨ 0xDFFF < v ∧ v < 0x110000) :
    String.utf8EncodeChar (Char.ofNat v) =
      if v ≤ 127 then [UInt8.ofNat v]
      else if v ≤ 2047 then [UInt8.ofNat (v / 64 % 32 + 192), UInt8.ofNat (v % 64 + 128)]
      else if v ≤ 65535 then
        [UInt8.ofNat (v / 4096 % 16 + 224), UInt8.ofNat (v / 64 % 64 + 128),
          UInt8.ofNat (v % 64 + 128)]
      else
        [UInt8.ofNat (v / 262144 % 8 + 240), UInt8.ofNat (v / 4096 % 64 + 128),
          UInt8.ofNat (v / 64 % 64 + 128), UInt8.ofNat (v % 64 + 128)] := by
  have hn : (Char.ofNat v).val.toNat = v := by
    rw [Char.ofNat, dif_pos hv]
    rfl
  simp only [String.utf8EncodeChar, hn]

theorem of_shape {b low high : UInt8} {count : Nat} (h : shape b = some (count, low, high)) :
    128 ≤ low.toNat ∧ high.toNat ≤ 191 ∧
      (count = 0 ∧ b.toNat < 0x80 ∨
        count = 1 ∧ 0xC2 ≤ b.toNat ∧ b.toNat < 0xE0 ∨
        count = 2 ∧ 0xE0 ≤ b.toNat ∧ b.toNat < 0xF0 ∧ (b.toNat = 0xE0 → 0xA0 ≤ low.toNat) ∧
          (b.toNat = 0xED → high.toNat ≤ 0x9F) ∨
        count = 3 ∧ 0xF0 ≤ b.toNat ∧ b.toNat < 0xF5 ∧ (b.toNat = 0xF0 → 0x90 ≤ low.toNat) ∧
          (b.toNat = 0xF4 → high.toNat ≤ 0x8F)) := by
  have h₁ : (0x80 : UInt8).toNat = 128 := rfl
  have h₂ : (0xBF : UInt8).toNat = 191 := rfl
  have h₃ : (0xA0 : UInt8).toNat = 160 := rfl
  have h₄ : (0x9F : UInt8).toNat = 159 := rfl
  have h₅ : (0x90 : UInt8).toNat = 144 := rfl
  have h₆ : (0x8F : UInt8).toNat = 143 := rfl
  simp only [shape_eq, ite_eq_iff, Option.some.injEq, Prod.mk.injEq, reduceCtorEq, and_false,
    or_false, false_or] at h
  -- one case for each range of first bytes that a character can begin with
  rcases h with ⟨_, rfl, rfl, rfl⟩ | ⟨_, _, ⟨_, rfl, rfl, rfl⟩ | ⟨_, ⟨_, rfl, rfl, rfl⟩ | ⟨_,
    ⟨_, rfl, rfl, rfl⟩ | ⟨_, ⟨_, rfl, rfl, rfl⟩ | ⟨_, ⟨_, rfl, rfl, rfl⟩ | ⟨_,
    ⟨_, rfl, rfl, rfl⟩ | ⟨_, _, rfl, rfl, rfl⟩⟩⟩⟩⟩⟩⟩
  all_goals omega

theorem encode_of_next {c : Char} {b : UInt8} {bs rest : List UInt8}
    (h : next b bs = (some c, rest)) : b :: bs = String.utf8EncodeChar c ++ rest := by
  have hlow : (0x80 : UInt8).toNat = 128 := rfl
  have hhigh : (0xBF : UInt8).toNat = 191 := rfl
  unfold next at h
  split at h
  · cases h
  next count low high hs =>
  obtain ⟨hl, hh, hk⟩ := of_shape hs
  obtain ⟨v, hv, rfl⟩ : ∃ v, complete count low high (leading b count) bs = (some v, rest) ∧
      Char.ofNat v = c := by
    generalize complete count low high (leading b count) bs = r at h
    obtain ⟨point, rest'⟩ := r
    obtain ⟨hp, rfl⟩ := Prod.mk.inj h
    obtain ⟨v, rfl, hc⟩ := Option.map_eq_some_iff.mp hp
    exact ⟨v, rfl, hc⟩
  have hb : ∀ n, n = b.toNat → b = UInt8.ofNat n := by
    rintro n rfl
    exact UInt8.ofNat_toNat.symm
  rcases hk with ⟨rfl, hk⟩ | ⟨rfl, hk, hk'⟩ | ⟨rfl, hk, hk', hk₀, hk₁⟩ | ⟨rfl, hk, hk', hk₀, hk₁⟩
  · obtain ⟨rfl, rfl⟩ := eq_of_complete hv
    rw [leading, utf8EncodeChar_ofNat (by omega), if_pos (by omega), ← hb _ rfl]
    rfl
  · obtain ⟨d, bs', hd, -, -, rfl, hv₁⟩ := exists_of_complete hl hh hv
    obtain ⟨hp, rfl⟩ := eq_of_complete hv₁
    rw [leading] at hp
    have h₁ : v % 64 = d := by omega
    rw [utf8EncodeChar_ofNat (by omega), if_neg (by omega), if_pos (by omega), h₁,
      ← hb (v / 64 % 32 + 192) (by omega)]
    rfl
  · obtain ⟨d, bs₁, hd, hl', hh', rfl, hv₁⟩ := exists_of_complete hl hh hv
    obtain ⟨e, bs₂, he, -, -, rfl, hv₂⟩ := exists_of_complete (by omega) (by omega) hv₁
    obtain ⟨hp, rfl⟩ := eq_of_complete hv₂
    rw [leading] at hp
    have h₁ : v % 64 = e := by omega
    have h₂ : v / 64 % 64 = d := by omega
    rw [utf8EncodeChar_ofNat (by omega), if_neg (by omega), if_neg (by omega), if_pos (by omega),
      h₁, h₂, ← hb (v / 4096 % 16 + 224) (by omega)]
    rfl
  · obtain ⟨d, bs₁, hd, hl', hh', rfl, hv₁⟩ := exists_of_complete hl hh hv
    obtain ⟨e, bs₂, he, -, -, rfl, hv₂⟩ := exists_of_complete (by omega) (by omega) hv₁
    obtain ⟨f, bs₃, hf, -, -, rfl, hv₃⟩ := exists_of_complete (by omega) (by omega) hv₂
    obtain ⟨hp, rfl⟩ := eq_of_complete hv₃
    rw [leading] at hp
    · have h₁ : v % 64 = f := by omega
      have h₂ : v / 64 % 64 = e := by omega
      have h₃ : v / 4096 % 64 = d := by omega
      rw [utf8EncodeChar_ofNat (by omega), if_neg (by omega), if_neg (by omega),
        if_neg (by omega), h₁, h₂, h₃, ← hb (v / 262144 % 8 + 240) (by omega)]
      rfl
    all_goals decide

theorem chars_encode_append (cs : List Char) (rest : List UInt8) :
    chars (cs.flatMap String.utf8EncodeChar ++ rest) = cs.map some ++ chars rest := by
  induction cs with
  | nil => rfl
  | cons c cs ih =>
    obtain ⟨b, bs, hb⟩ : ∃ b bs, String.utf8EncodeChar c = b :: bs :=
      List.exists_cons_of_ne_nil (by simp)
    rw [List.flatMap_cons, List.append_assoc, hb, List.cons_append, chars, next_of_encode hb, ih]
    rfl

theorem mapM_id_eq_some_iff (xs : List (Option Char)) (cs : List Char) :
    xs.mapM id = some cs ↔ xs = cs.map some := by
  induction xs generalizing cs with
  | nil => cases cs <;> simp
  | cons x xs ih =>
    cases cs with
    | nil => simp [Option.bind_eq_some_iff]
    | cons c cs =>
      simp only [List.map_cons, List.cons.injEq, ← ih cs, List.mapM_cons, id, bind, pure,
        Option.bind_eq_some_iff, Option.some.injEq]
      constructor
      · rintro ⟨d, rfl, ds, hd, rfl, rfl⟩
        exact ⟨rfl, hd⟩
      · rintro ⟨rfl, h⟩
        exact ⟨c, rfl, cs, h, rfl, rfl⟩

theorem encode_of_chars {bs : List UInt8} {cs : List Char} (h : chars bs = cs.map some) :
    bs = cs.flatMap String.utf8EncodeChar := by
  induction cs generalizing bs with
  | nil =>
    cases bs with
    | nil => rfl
    | cons b bs => simp [chars] at h
  | cons c cs ih =>
    cases bs with
    | nil => simp [chars] at h
    | cons b bs =>
      rw [chars, List.map_cons] at h
      obtain ⟨hc, hr⟩ := List.cons.inj h
      rw [encode_of_next (Prod.ext hc rfl), List.flatMap_cons, ← ih hr]

theorem decode?_eq_some_iff (bs : List UInt8) (s : String) :
    decode? bs = some s ↔ bs = encode s := by
  simp only [decode?, Option.map_eq_some_iff, mapM_id_eq_some_iff, encode_eq_flatMap]
  constructor
  · rintro ⟨cs, hc, rfl⟩
    rw [String.toList_ofList]
    exact encode_of_chars hc
  · rintro rfl
    have h := chars_encode_append s.toList []
    rw [List.append_nil, chars, List.append_nil] at h
    exact ⟨s.toList, h, String.ofList_toList⟩

end QualityGate.Text.Utf8
