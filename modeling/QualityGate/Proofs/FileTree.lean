import QualityGate.FileTree

namespace QualityGate.FileTree

variable {t t' : FileTree} {cwd p q : Place} {path name : String}

theorem step_eq_ok_iff : t.step p name = .ok q ↔
    t.find? p = some .directory ∧ name.utf8ByteSize ≤ maxName ∧
      q = if name = ".." then p.dropLast else p ++ [name] := by
  rw [step]
  cases t.find? p with
  | none => simp
  | some e =>
    cases e with
    | file bytes => simp
    | directory =>
      by_cases h : maxName < name.utf8ByteSize
      · simp [h, Nat.not_le.mpr h]
      · simp [h, Nat.not_lt.mp h, eq_comm]

theorem foldlM_step_iff (h : ∀ d, t.find? d = some .directory ↔ t'.find? d = some .directory)
    (names : List String) : names.foldlM t.step p = .ok q ↔ names.foldlM t'.step p = .ok q := by
  have hs : ∀ name d q, t.step d name = .ok q ↔ t'.step d name = .ok q := by
    intro name d q
    rw [step_eq_ok_iff, step_eq_ok_iff, h]
  induction names generalizing p with
  | nil => exact Iff.rfl
  | cons name names ih =>
    rw [List.foldlM_cons, List.foldlM_cons]
    cases ht : t.step p name with
    | ok d =>
      rw [(hs name p d).mp ht]
      exact ih
    | error e =>
      cases ht' : t'.step p name with
      | ok d => rw [(hs name p d).mpr ht'] at ht; cases ht
      | error e' => simp [bind, Except.bind]

theorem fileAt?_eq_some_iff : t.fileAt? cwd path = some p ↔
    path.utf8ByteSize ≤ maxPath ∧
      ((Path.components path.toList).map String.ofList).foldlM t.step
        (if path.toList.head? = some '/' then [] else cwd) = .ok p ∧
      path.isEmpty = false ∧ wantsDirectory path = false ∧ (t.bytes? p).isSome = true := by
  rw [fileAt?, locate]
  by_cases hl : maxPath < path.utf8ByteSize
  · simp [hl, Nat.not_le.mpr hl, throw, throwThe, MonadExceptOf.throw, bind, Except.bind]
  rw [if_neg hl]
  cases hw : ((Path.components path.toList).map String.ofList).foldlM t.step
      (if path.toList.head? = some '/' then [] else cwd) with
  | error e => simp [bind, Except.bind, hw]
  | ok q =>
    cases he : path.isEmpty with
    | true => simp [bind, Except.bind, hw]
    | false =>
      cases hd : wantsDirectory path with
      | false =>
        have hc : (t.bytes? q).isSome = true ∧ q = p ↔ q = p ∧ (t.bytes? p).isSome = true :=
          and_comm.trans (and_congr_right fun h => by rw [h])
        simpa [bind, Except.bind, hw, Nat.not_lt.mp hl] using hc
      | true =>
        cases hq : t.find? q with
        | none => simp [bind, Except.bind, hw, bytes?, hq]
        | some e => cases e <;> simp [bind, Except.bind, hw, bytes?, hq]

theorem bytes?_eq_some_iff {bytes : List UInt8} :
    t.bytes? p = some bytes ↔ t.find? p = some (.file bytes) := by
  rw [bytes?]
  split <;> simp_all

theorem fileAt?_of_absolute (h : path.toList.head? = some '/') (dir dir' : Place) :
    t.fileAt? dir path = t.fileAt? dir' path := by
  simp only [fileAt?, locate, h, if_pos]

theorem fileAt?_congr (h : ∀ d, t.find? d = some .directory ↔ t'.find? d = some .directory)
    (hp : t.fileAt? cwd path = some p) (hb : t'.find? p = t.find? p) :
    t'.fileAt? cwd path = some p := by
  obtain ⟨hl, hw, he, hd, hs⟩ := fileAt?_eq_some_iff.mp hp
  refine fileAt?_eq_some_iff.mpr ⟨hl, (foldlM_step_iff h _).mp hw, he, hd, ?_⟩
  rw [bytes?, hb, ← bytes?]
  exact hs

end QualityGate.FileTree
