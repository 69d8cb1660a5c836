import Mathlib.Data.List.Infix
import QualityGate.Proofs.FileTree
import QualityGate.Settings.Load

namespace QualityGate

variable {tree : FileTree} {cwd dir : Place} {path : String}

/-- The file that a path leads to from the nearest directory: from the working directory or, failing
that, from one above it. -/
structure Nearest (tree : FileTree) (cwd : Place) (path : String) (dir : Place)
    (bytes : List UInt8) : Prop where
  above : dir <+: cwd
  holds : ∃ place, tree.fileAt? dir path = some place ∧ tree.find? place = some (.file bytes)
  nearest : ∀ dir', dir' <+: cwd → dir.length < dir'.length → tree.fileAt? dir' path = none

/-- What a file of settings tells. One that is nowhere tells nothing. -/
inductive Held (tree : FileTree) (cwd : Place) (path : String) : Setting → Prop
  | missing (h : ∀ dir, dir <+: cwd → tree.fileAt? dir path = none) :
      Held tree cwd path (.nothing (.file path))
  | read {dir : Place} {bytes : List UInt8} {text : String} {s : Setting}
      (hn : Nearest tree cwd path dir bytes) (ht : Text.Utf8.decode? bytes = some text)
      (hs : Setting.ofYaml? (.file (shownPath cwd dir path)) text = some s) :
      Held tree cwd path s

theorem mem_searchPath : dir ∈ searchPath cwd ↔ dir <+: cwd := by
  rw [searchPath, List.mem_cons, List.mem_reverse, FileTree.ancestors, List.mem_map]
  constructor
  · rintro (rfl | ⟨n, -, rfl⟩)
    · exact List.prefix_refl _
    · exact List.take_prefix n cwd
  · intro h
    have ht := List.prefix_iff_eq_take.mp h
    rcases Nat.lt_or_eq_of_le h.length_le with hl | hl
    · exact .inr ⟨dir.length, List.mem_range.mpr hl, ht.symm⟩
    · exact .inl (h.eq_of_length hl)

theorem pairwise_searchPath (cwd : Place) :
    (searchPath cwd).Pairwise fun near far => far.length < near.length := by
  have ha : (FileTree.ancestors cwd).Pairwise fun far near => far.length < near.length := by
    refine List.pairwise_map.mpr ((List.pairwise_lt_range (n := cwd.length)).imp_of_mem ?_)
    intro n k hn hk hlt
    simp only [List.length_take, List.mem_range] at hn hk ⊢
    omega
  refine List.pairwise_cons.mpr ⟨fun dir hd => ?_, List.pairwise_reverse.mpr ha⟩
  obtain ⟨n, hn, rfl⟩ := List.mem_map.mp (List.mem_reverse.mp hd)
  rw [List.length_take]
  exact (Nat.min_le_left _ _).trans_lt (List.mem_range.mp hn)

/-- What there is to read in a directory. -/
def heldIn? (tree : FileTree) (cwd : Place) (path : String) (dir : Place) :
    Option (String × List UInt8) :=
  match tree.fileAt? dir path with
  | some place => (tree.bytes? place).map (shownPath cwd dir path, ·)
  | none => none

theorem heldIn?_eq_none_iff : heldIn? tree cwd path dir = none ↔ tree.fileAt? dir path = none := by
  rw [heldIn?]
  cases hp : tree.fileAt? dir path with
  | none => simp
  | some place =>
    have hb := (FileTree.fileAt?_eq_some_iff.mp hp).2.2.2.2
    simpa using Option.isSome_iff_ne_none.mp hb

theorem heldIn?_eq_some_iff {shown : String} {bytes : List UInt8} :
    heldIn? tree cwd path dir = some (shown, bytes) ↔
      (∃ place, tree.fileAt? dir path = some place ∧ tree.find? place = some (.file bytes)) ∧
        shown = shownPath cwd dir path := by
  rw [heldIn?]
  cases tree.fileAt? dir path with
  | none => simp
  | some place => simp [← FileTree.bytes?_eq_some_iff, eq_comm (a := shown)]

theorem findFile?_eq (tree : FileTree) (cwd : Place) (path : String) :
    findFile? tree cwd path = (searchPath cwd).findSome? (heldIn? tree cwd path) := by
  have hf : findFile? tree cwd path = (if path.toList.head? = some '/' then [cwd]
    else searchPath cwd).findSome? (heldIn? tree cwd path) := rfl
  rw [hf]
  split_ifs with ha
  · rw [searchPath, List.findSome?_cons, List.findSome?_cons]
    cases hc : heldIn? tree cwd path cwd with
    | some _ => rfl
    | none =>
      -- an absolute path leads to the same place from everywhere
      refine (List.findSome?_eq_none_iff.mpr fun dir _ => ?_).symm
      rw [heldIn?_eq_none_iff] at hc ⊢
      rw [FileTree.fileAt?_of_absolute ha dir cwd, hc]
  · rfl

theorem findFile?_eq_none_iff :
    findFile? tree cwd path = none ↔ ∀ dir, dir <+: cwd → tree.fileAt? dir path = none := by
  simp only [findFile?_eq, List.findSome?_eq_none_iff, heldIn?_eq_none_iff, mem_searchPath]

theorem findFile?_eq_some_iff {shown : String} {bytes : List UInt8} :
    findFile? tree cwd path = some (shown, bytes) ↔
      ∃ dir, Nearest tree cwd path dir bytes ∧ shown = shownPath cwd dir path := by
  have hp := pairwise_searchPath cwd
  rw [findFile?_eq, List.findSome?_eq_some_iff]
  constructor
  · rintro ⟨near, dir, far, hs, hd, hn⟩
    obtain ⟨hh, rfl⟩ := heldIn?_eq_some_iff.mp hd
    refine ⟨dir, ⟨mem_searchPath.mp (by simp [hs]), hh, fun dir' hd' hl => ?_⟩, rfl⟩
    have hm : dir' ∈ near ++ dir :: far := hs ▸ mem_searchPath.mpr hd'
    rw [hs, List.pairwise_append, List.pairwise_cons] at hp
    rcases List.mem_append.mp hm with hm | hm
    · exact heldIn?_eq_none_iff.mp (hn dir' hm)
    · rcases List.mem_cons.mp hm with rfl | hm
      · exact absurd hl (Nat.lt_irrefl _)
      · exact absurd (hp.2.1.1 dir' hm) (Nat.lt_asymm hl)
  · rintro ⟨dir, hd, rfl⟩
    obtain ⟨near, far, hs⟩ := List.append_of_mem (mem_searchPath.mpr hd.above)
    refine ⟨near, dir, far, hs, heldIn?_eq_some_iff.mpr ⟨hd.holds, rfl⟩, fun dir' hm => ?_⟩
    rw [hs, List.pairwise_append] at hp
    refine heldIn?_eq_none_iff.mpr (hd.nearest dir' (mem_searchPath.mp (by simp [hs, hm])) ?_)
    exact hp.2.2 dir' hm dir List.mem_cons_self

theorem fileLayer?_eq_some_iff {s : Setting} :
    fileLayer? tree cwd path = some s ↔ Held tree cwd path s := by
  rw [fileLayer?]
  constructor
  · intro h
    split at h
    · next hf =>
      obtain rfl := Option.some.inj h
      exact .missing (findFile?_eq_none_iff.mp hf)
    · next shown bytes hf =>
      obtain ⟨text, ht, hs⟩ := Option.bind_eq_some_iff.mp h
      obtain ⟨dir, hd, rfl⟩ := findFile?_eq_some_iff.mp hf
      exact .read hd ht hs
  · rintro (h | ⟨hn, ht, hs⟩)
    · rw [findFile?_eq_none_iff.mpr h]
    · rw [findFile?_eq_some_iff.mpr ⟨_, hn, rfl⟩]
      simp [ht, hs]

end QualityGate
