import Mathlib.Data.String.Basic
import QualityGate.Members

namespace QualityGate.Members

variable {α : Type} {name : String} {value : α} {members : List (String × α)}

def Sorted (members : List (String × α)) : Prop :=
  members.Pairwise fun m n => m.1 < n.1

theorem Sorted.nodup (h : Sorted members) : (members.map Prod.fst).Nodup :=
  List.pairwise_map.mpr (h.imp fun hlt => hlt.ne)

theorem lookup_cons (m : String × α) (members : List (String × α)) (n : String) :
    (m :: members).lookup n = if n = m.1 then some m.2 else members.lookup n := by
  rw [List.lookup_cons]
  by_cases h : n = m.1
  · rw [beq_iff_eq.mpr h, if_pos h]
  · rw [beq_eq_false_iff_ne.mpr h, if_neg h]

theorem lookup_insert (name : String) (value : α) (members : List (String × α)) (n : String) :
    (insert name value members).lookup n = if n = name then some value else members.lookup n := by
  induction members with
  | nil => exact lookup_cons ..
  | cons m rest ih =>
    obtain ⟨k, v⟩ := m
    rw [insert]
    by_cases hlt : name < k
    · rw [if_pos hlt, lookup_cons]
    · by_cases he : name = k
      · rw [if_neg hlt, if_pos he, lookup_cons, lookup_cons, he]
        by_cases hn : n = k
        · rw [if_pos hn, if_pos hn]
        · rw [if_neg hn, if_neg hn, if_neg hn]
      · rw [if_neg hlt, if_neg he, lookup_cons, lookup_cons, ih]
        by_cases hn : n = name
        · have hk : n ≠ k := hn ▸ he
          rw [if_neg hk, if_pos hn, if_pos hn]
        · rw [if_neg hn, if_neg hn]

theorem mem_insert {m : String × α} (h : m ∈ insert name value members) :
    m = (name, value) ∨ m ∈ members := by
  induction members with
  | nil => simpa [insert] using h
  | cons x rest ih =>
    obtain ⟨k, v⟩ := x
    rw [insert] at h
    split_ifs at h with hlt he
    · exact List.mem_cons.mp h
    · exact (List.mem_cons.mp h).imp_right (List.mem_cons_of_mem _)
    · rcases List.mem_cons.mp h with rfl | h
      · exact .inr List.mem_cons_self
      · exact (ih h).imp_right (List.mem_cons_of_mem _)

theorem Sorted.insert (h : Sorted members) (name : String) (value : α) :
    Sorted (insert name value members) := by
  induction members with
  | nil => exact List.pairwise_singleton _ _
  | cons x rest ih =>
    obtain ⟨k, v⟩ := x
    obtain ⟨hk, hr⟩ := List.pairwise_cons.mp h
    rw [Members.insert]
    split_ifs with hlt he
    · refine List.pairwise_cons.mpr ⟨fun m hm => ?_, h⟩
      rcases List.mem_cons.mp hm with rfl | hm
      · exact hlt
      · exact hlt.trans (hk m hm)
    · exact List.pairwise_cons.mpr ⟨he ▸ hk, hr⟩
    · refine List.pairwise_cons.mpr ⟨fun m hm => ?_, ih hr⟩
      rcases mem_insert hm with rfl | hm
      · exact lt_of_le_of_ne (not_lt.mp hlt) (Ne.symm he)
      · exact hk m hm

theorem Sorted.foldl_insert (h : Sorted members) (added : List (String × α)) :
    Sorted (added.foldl (fun sorted m => Members.insert m.1 m.2 sorted) members) := by
  induction added generalizing members with
  | nil => exact h
  | cons m added ih => exact ih (h.insert m.1 m.2)

theorem sorted_arrange (members : List (String × α)) : Sorted (arrange members) :=
  Sorted.foldl_insert List.Pairwise.nil members

theorem insert_of_last (value : α) (h : ∀ m ∈ members, m.1 < name) :
    insert name value members = members ++ [(name, value)] := by
  induction members with
  | nil => rfl
  | cons m rest ih =>
    obtain ⟨k, v⟩ := m
    have hk : k < name := h _ List.mem_cons_self
    rw [insert, if_neg hk.not_gt, if_neg hk.ne', ih fun m hm => h m (List.mem_cons_of_mem _ hm)]
    rfl

theorem Sorted.foldl_insert_append {added : List (String × α)} (h : Sorted (members ++ added)) :
    added.foldl (fun sorted m => Members.insert m.1 m.2 sorted) members = members ++ added := by
  induction added generalizing members with
  | nil => exact (List.append_nil members).symm
  | cons m added ih =>
    have hm : ∀ x ∈ members, x.1 < m.1 := fun x hx =>
      (List.pairwise_append.mp h).2.2 x hx m List.mem_cons_self
    rw [List.foldl_cons, insert_of_last m.2 hm, ih (by rwa [List.append_assoc]), List.append_assoc]
    rfl

theorem Sorted.arrange_eq (h : Sorted members) : arrange members = members := by
  have hs : Sorted ([] ++ members) := h
  exact hs.foldl_insert_append

theorem mem_foldl_insert {added : List (String × α)} {m : String × α}
    (h : m ∈ added.foldl (fun sorted m => insert m.1 m.2 sorted) members) :
    m ∈ added ∨ m ∈ members := by
  induction added generalizing members with
  | nil => exact .inr h
  | cons x added ih =>
    rcases ih h with hm | hm
    · exact .inl (List.mem_cons_of_mem x hm)
    · refine (mem_insert hm).imp_left fun he => ?_
      rw [he]
      exact List.mem_cons_self

theorem mem_arrange {m : String × α} (h : m ∈ arrange members) : m ∈ members :=
  (mem_foldl_insert h).resolve_right List.not_mem_nil

theorem lookup_eq_none_of_not_mem (h : name ∉ members.map Prod.fst) :
    members.lookup name = none := by
  rw [List.lookup_eq_none_iff]
  rintro ⟨n, v⟩ hm
  have hn : name ≠ n := fun hn => h (hn ▸ List.mem_map_of_mem hm)
  simpa using hn

theorem mem_of_lookup (h : members.lookup name = some value) : (name, value) ∈ members := by
  obtain ⟨before, after, hm, -⟩ := List.lookup_eq_some_iff.mp h
  simp [hm]

theorem lookup_foldl_insert {added : List (String × α)} (hn : (added.map Prod.fst).Nodup)
    (n : String) :
    (added.foldl (fun sorted m => insert m.1 m.2 sorted) members).lookup n =
      (added.lookup n <|> members.lookup n) := by
  induction added generalizing members with
  | nil => rfl
  | cons x added ih =>
    obtain ⟨hx, hr⟩ := List.nodup_cons.mp hn
    rw [List.foldl_cons, ih hr, lookup_insert, lookup_cons]
    split_ifs with he
    · rw [he, lookup_eq_none_of_not_mem hx]
      rfl
    · rfl

theorem lookup_arrange (hn : (members.map Prod.fst).Nodup) (n : String) :
    (arrange members).lookup n = members.lookup n := by
  rw [arrange, lookup_foldl_insert hn]
  simp

theorem exists_mem_insert {n : String}
    (h : n = name ∨ ∃ v, (n, v) ∈ members) : ∃ v, (n, v) ∈ insert name value members := by
  have hl : (insert name value members).lookup n ≠ none := by
    rw [lookup_insert]
    split_ifs with he
    · exact Option.some_ne_none _
    · obtain ⟨v, hv⟩ := h.resolve_left he
      intro hn
      simpa using List.lookup_eq_none_iff.mp hn _ hv
  obtain ⟨v, hv⟩ := Option.ne_none_iff_exists'.mp hl
  exact ⟨v, mem_of_lookup hv⟩

theorem exists_mem_foldl_insert {added : List (String × α)} {n : String}
    (h : (∃ v, (n, v) ∈ added) ∨ ∃ v, (n, v) ∈ members) :
    ∃ v, (n, v) ∈ added.foldl (fun sorted m => insert m.1 m.2 sorted) members := by
  induction added generalizing members with
  | nil => exact h.resolve_left fun ⟨_, hv⟩ => nomatch hv
  | cons m added ih =>
    refine ih (h.elim ?_ fun h => .inr (exists_mem_insert (.inr h)))
    rintro ⟨v, hv⟩
    rcases List.mem_cons.mp hv with rfl | hv
    · exact .inr (exists_mem_insert (.inl rfl))
    · exact .inl ⟨v, hv⟩

theorem exists_mem_arrange (h : (name, value) ∈ members) : ∃ v, (name, v) ∈ arrange members :=
  exists_mem_foldl_insert (.inl ⟨value, h⟩)

theorem insert_perm (value : α) (h : name ∉ members.map Prod.fst) :
    (insert name value members).Perm ((name, value) :: members) := by
  induction members with
  | nil => exact .refl _
  | cons m rest ih =>
    obtain ⟨k, v⟩ := m
    have hk : name ≠ k := fun he => h (he ▸ List.mem_cons_self)
    have hr : name ∉ rest.map Prod.fst := fun hr => h (List.mem_cons_of_mem k hr)
    rw [insert, if_neg hk]
    split_ifs with hlt
    · exact .refl _
    · exact ((ih hr).cons (k, v)).trans (.swap _ _ rest)

theorem foldl_insert_perm {added : List (String × α)}
    (hn : ((added ++ members).map Prod.fst).Nodup) :
    (added.foldl (fun sorted m => insert m.1 m.2 sorted) members).Perm (added ++ members) := by
  induction added generalizing members with
  | nil => exact .refl _
  | cons m added ih =>
    have hm : m.1 ∉ members.map Prod.fst := fun hm =>
      (List.nodup_cons.mp hn).1 (by simpa using .inr (by simpa using hm))
    have hp : (added ++ insert m.1 m.2 members).Perm (m :: (added ++ members)) :=
      ((insert_perm m.2 hm).append_left added).trans List.perm_middle
    exact (ih ((hp.map Prod.fst).nodup_iff.mpr hn)).trans hp

theorem arrange_perm (hn : (members.map Prod.fst).Nodup) : (arrange members).Perm members := by
  have h : (arrange members).Perm (members ++ []) :=
    foldl_insert_perm (by rwa [List.append_nil])
  rwa [List.append_nil] at h

end QualityGate.Members
