import QualityGate.Proofs.Settings.Tree
import QualityGate.Proofs.Wire.Record

namespace QualityGate.Wire

open Setting

variable {members : List (String × Setting)} {pick : String → Setting → Option Setting}
  {name : String} {value : Setting}

/-- What a choice by name and value leaves of some members. -/
def keep (pick : String → Setting → Option Setting) (members : List (String × Setting)) :
    List (String × Setting) :=
  members.filterMap fun m => (pick m.1 m.2).map (m.1, ·)

mutual

/-- The tree without the members that the records of the form have no fields for. -/
def Form.prune : {α : Type} → Form α → Setting → Setting
  | _, .record _ fields _ _ _, s =>
    match s with
    | .group o members => .group o (keep fields.pruneMember members)
    | .leaf o content => .leaf o content
    | .list o items => .list o items
  | _, _, s => s

def Fields.pruneMember : {β σ : Type} → Fields β σ → String → Setting → Option Setting
  | _, _, .nil, _, _ => none
  | _, _, .cons key form _ rest, k, v =>
    if k = key then some (form.prune v) else rest.pruneMember k v

end

theorem keep_cons_none (h : pick name value = none) :
    keep pick ((name, value) :: members) = keep pick members := by
  rw [keep, List.filterMap_cons, h]
  rfl

theorem keep_cons_some {kept : Setting} (h : pick name value = some kept) :
    keep pick ((name, value) :: members) = (name, kept) :: keep pick members := by
  rw [keep, List.filterMap_cons, h]
  rfl

theorem mem_keep {m : String × Setting} (h : m ∈ keep pick members) :
    ∃ v, (m.1, v) ∈ members ∧ pick m.1 v = some m.2 := by
  obtain ⟨⟨n, v⟩, hv, hm⟩ := List.mem_filterMap.mp h
  obtain ⟨kept, hk, rfl⟩ := Option.map_eq_some_iff.mp hm
  exact ⟨v, hv, hk⟩

theorem map_fst_keep_sublist (members : List (String × Setting)) :
    ((keep pick members).map Prod.fst).Sublist (members.map Prod.fst) := by
  induction members with
  | nil => exact List.Sublist.slnil
  | cons m members ih =>
    obtain ⟨n, v⟩ := m
    cases h : pick n v with
    | none =>
      rw [keep_cons_none h]
      exact ih.cons n
    | some kept =>
      rw [keep_cons_some h]
      exact ih.cons_cons n

theorem lookup_keep (hn : (members.map Prod.fst).Nodup) (name : String) :
    (keep pick members).lookup name = (members.lookup name).bind (pick name) := by
  induction members with
  | nil => rfl
  | cons m members ih =>
    obtain ⟨n, v⟩ := m
    obtain ⟨hm, hr⟩ := List.nodup_cons.mp hn
    rw [Members.lookup_cons]
    cases h : pick n v with
    | none =>
      rw [keep_cons_none h, ih hr]
      split_ifs with he
      · subst he
        rw [Members.lookup_eq_none_of_not_mem hm, Option.bind_some, h]
        rfl
      · rfl
    | some kept =>
      rw [keep_cons_some h, Members.lookup_cons, ih hr]
      split_ifs with he
      · subst he
        exact h.symm
      · rfl

theorem keep_insert_none (h : ∀ v, pick name v = none) (value : Setting)
    (members : List (String × Setting)) :
    keep pick (Members.insert name value members) = keep pick members := by
  induction members with
  | nil => exact keep_cons_none (h value)
  | cons m members ih =>
    obtain ⟨n, v⟩ := m
    rw [Members.insert]
    split_ifs with hlt he
    · exact keep_cons_none (h value)
    · rw [keep_cons_none (h value), keep_cons_none (he ▸ h v)]
    · cases hv : pick n v with
      | none => rw [keep_cons_none hv, keep_cons_none hv, ih]
      | some kept => rw [keep_cons_some hv, keep_cons_some hv, ih]

theorem keep_insert_some {kept : Setting} (h : ∀ v, pick name v ≠ none)
    (hk : pick name value = some kept) (hs : Members.Sorted members) :
    keep pick (Members.insert name value members) =
      Members.insert name kept (keep pick members) := by
  induction members with
  | nil => exact keep_cons_some hk
  | cons m members ih =>
    obtain ⟨n, v⟩ := m
    obtain ⟨hn, hr⟩ := List.pairwise_cons.mp hs
    rw [Members.insert]
    by_cases hlt : name < n
    · have hgt : ∀ m ∈ keep pick ((n, v) :: members), name < m.1 := by
        intro m hm
        obtain ⟨x, hx, -⟩ := mem_keep hm
        rcases List.mem_cons.mp hx with he | hx
        · rw [(Prod.mk.inj he).1]
          exact hlt
        · exact hlt.trans (hn (m.1, x) hx)
      rw [if_pos hlt, keep_cons_some hk]
      cases hrest : keep pick ((n, v) :: members) with
      | nil => rfl
      | cons m rest =>
        obtain ⟨k, x⟩ := m
        have hm : (k, x) ∈ keep pick ((n, v) :: members) := hrest ▸ List.mem_cons_self
        rw [Members.insert, if_pos (hgt _ hm)]
    · by_cases he : name = n
      · subst he
        obtain ⟨old, ho⟩ := Option.ne_none_iff_exists'.mp (h v)
        rw [if_neg hlt, if_pos rfl, keep_cons_some hk, keep_cons_some ho, Members.insert,
          if_neg hlt, if_pos rfl]
      · rw [if_neg hlt, if_neg he]
        cases hv : pick n v with
        | none => rw [keep_cons_none hv, keep_cons_none hv, ih hr]
        | some x =>
          rw [keep_cons_some hv, keep_cons_some hv, ih hr, Members.insert, if_neg hlt, if_neg he]

theorem keep_mergeMembers {earlier later : List (String × Setting)}
    (hp : ∀ n v, pick n v = none → ∀ x, pick n x = none)
    (hm : ∀ n x v y w, x.Neat → v.Neat → pick n x = some y → pick n v = some w →
      pick n (merge x v) = some (merge y w))
    (hs : Members.Sorted earlier) (he : ∀ m ∈ earlier, m.2.Neat) (hl : ∀ m ∈ later, m.2.Neat) :
    keep pick (mergeMembers earlier later) =
      mergeMembers (keep pick earlier) (keep pick later) := by
  induction later generalizing earlier with
  | nil => rfl
  | cons m later ih =>
    obtain ⟨n, v⟩ := m
    have hv : v.Neat := hl _ List.mem_cons_self
    have hl' : ∀ m ∈ later, m.2.Neat := fun m hm => hl m (List.mem_cons_of_mem _ hm)
    have hstep : ∀ x : Setting, x.Neat →
        keep pick (mergeMembers (Members.insert n x earlier) later) =
          mergeMembers (keep pick (Members.insert n x earlier)) (keep pick later) := by
      intro x hx
      refine ih (hs.insert n x) (fun m hm => ?_) hl'
      rcases Members.mem_insert hm with rfl | hm
      · exact hx
      · exact he m hm
    have hlookup := @lookup_keep _ pick hs.nodup n
    rw [mergeMembers]
    cases hk : pick n v with
    | none =>
      rw [keep_cons_none hk]
      split
      · next x hx =>
        rw [hstep _ ((he _ (Members.mem_of_lookup hx)).merge hv), keep_insert_none (hp n v hk)]
      · rw [hstep v hv, keep_insert_none (hp n v hk)]
    | some kept =>
      have hsome : ∀ x, pick n x ≠ none := by
        intro x hx
        rw [hp n x hx v] at hk
        cases hk
      rw [keep_cons_some hk, mergeMembers, hlookup]
      cases hx : earlier.lookup n with
      | none => rw [Option.bind_none, hstep v hv, keep_insert_some hsome hk hs]
      | some x =>
        have hxn : x.Neat := he _ (Members.mem_of_lookup hx)
        obtain ⟨y, hy⟩ := Option.ne_none_iff_exists'.mp (hsome x)
        rw [Option.bind_some, hy, hstep _ (hxn.merge hv),
          keep_insert_some hsome (hm n x v y kept hxn hv hy hk) hs]

theorem Fields.pruneMember_eq_none_iff : {β σ : Type} → (fields : Fields β σ) → (k : String) →
    (v : Setting) → (fields.pruneMember k v = .none ↔ k ∉ fields.keys)
  | _, _, .nil, _, _ => by simp [pruneMember, keys]
  | _, _, .cons key form _ rest, k, v => by
    rw [pruneMember, keys, List.mem_cons, not_or]
    by_cases h : k = key
    · simp [h]
    · rw [if_neg h, pruneMember_eq_none_iff rest k v]
      simp [h]

mutual

theorem Form.prune_merge : {α : Type} → (f : Form α) → {a b : Setting} → a.Neat → b.Neat →
    f.prune (merge a b) = merge (f.prune a) (f.prune b)
  | _, .text, _, _, _, _ | _, .flag, _, _, _, _ | _, .word64, _, _, _, _
  | _, .int32, _, _, _, _ | _, .oneOf _ _ _, _, _, _, _ | _, .optional _, _, _, _, _
  | _, .list _, _, _, _, _ => rfl
  | _, .record _ fields _ _ _, a, b, ha, hb => by
    cases hb with
    | leaf | list => simp [merge, Form.prune]
    | group hs hm =>
      cases ha with
      | leaf | list =>
        rw [merge_group_of_not_isGroup _ _ rfl, Form.prune, Form.prune,
          merge_group_of_not_isGroup _ _ rfl]
      | group hs' hm' =>
        have hnone : ∀ n v, fields.pruneMember n v = none → ∀ x, fields.pruneMember n x = none :=
          fun n v hv x => (fields.pruneMember_eq_none_iff n x).mpr
            ((fields.pruneMember_eq_none_iff n v).mp hv)
        have hmerge : ∀ n x v y w, x.Neat → v.Neat → fields.pruneMember n x = some y →
            fields.pruneMember n v = some w →
            fields.pruneMember n (merge x v) = some (merge y w) :=
          fun n x v y w hx hv => Fields.pruneMember_merge fields hx hv
        rw [merge, Form.prune, Form.prune, Form.prune, merge,
          keep_mergeMembers hnone hmerge hs' hm' hm]

theorem Fields.pruneMember_merge : {β σ : Type} → (fields : Fields β σ) → {k : String} →
    {x v y w : Setting} → x.Neat → v.Neat → fields.pruneMember k x = some y →
    fields.pruneMember k v = some w → fields.pruneMember k (merge x v) = some (merge y w)
  | _, _, .nil, _, _, _, _, _, _, _, h, _ => by cases h
  | _, _, .cons key form _ rest, k, x, v, y, w, hx, hv, hy, hw => by
    rw [Fields.pruneMember] at hy hw ⊢
    split_ifs at hy hw ⊢ with h
    · rw [Form.prune_merge form hx hv, ← Option.some.inj hy, ← Option.some.inj hw]
    · exact Fields.pruneMember_merge rest hx hv hy hw

end

theorem Form.overlay_map_prune {α : Type} (f : Form α) {sources : List Setting}
    (hn : ∀ l ∈ sources, l.Neat) :
    overlay (sources.map f.prune) = (overlay sources).map f.prune := by
  cases sources with
  | nil => rfl
  | cons s rest =>
    induction rest generalizing s with
    | nil => rfl
    | cons l rest ih =>
      obtain ⟨hs, hn⟩ := List.forall_mem_cons.mp hn
      obtain ⟨hl, hn⟩ := List.forall_mem_cons.mp hn
      have hi := ih (s.merge l) (List.forall_mem_cons.mpr ⟨hs.merge hl, hn⟩)
      rw [List.map_cons, f.prune_merge hs hl] at hi
      exact hi

mutual

theorem Form.decode_prune : {α : Type} → (f : Form α) → f.Regular → {s : Setting} → s.Neat →
    (a : α) → (f.decode (f.prune s) = .ok a ↔ f.decode s = .ok a)
  | _, .text, _, _, _, _ | _, .flag, _, _, _, _ | _, .word64, _, _, _, _
  | _, .int32, _, _, _, _ | _, .optional _, _, _, _, _ | _, .list _, _, _, _, _ => Iff.rfl
  | _, .record _ fields _ _ _, hf, s, hn, a => by
    cases hn with
    | leaf | list => exact Iff.rfl
    | @group o members hs hm =>
      have hk : ((keep fields.pruneMember members).map Prod.fst).Nodup :=
        hs.nodup.sublist (map_fst_keep_sublist members)
      have ht : ∀ b, fields.Takes (keep fields.pruneMember members) b ↔ fields.Takes members b :=
        Fields.takes_prune fields hf.1 hm fun k _ => lookup_keep hs.nodup k
      have hd := fields.nodup_keys hf.1
      rw [Form.prune, Form.decode_record_iff hd rfl hk, Form.decode_record_iff hd rfl hs.nodup]
      simp only [ht]

theorem Fields.takes_prune : {β σ : Type} → (fields : Fields β σ) → fields.Regular →
    {members kept : List (String × Setting)} → (∀ m ∈ members, Setting.Neat m.2) →
    (∀ k ∈ fields.keys, kept.lookup k = (members.lookup k).bind (fields.pruneMember k)) →
    (b : β) → (fields.Takes kept b ↔ fields.Takes members b)
  | _, _, .nil, _, _, _, _, _, _ => Iff.rfl
  | _, _, .cons key form presence rest, hf, members, kept, hn, hk, (a, b) => by
    obtain ⟨hkey, hform, -, hrest⟩ := hf
    have hr : ∀ k ∈ rest.keys, kept.lookup k = (members.lookup k).bind (rest.pruneMember k) := by
      intro k hm
      have hne : k ≠ key := fun he => hkey (he ▸ hm)
      have hp : (Fields.cons key form presence rest).pruneMember k = rest.pruneMember k := by
        funext v
        rw [Fields.pruneMember, if_neg hne]
      rw [← hp]
      exact hk k (List.mem_cons_of_mem key hm)
    rw [Fields.Takes, Fields.Takes, Fields.takes_prune rest hrest hn hr b,
      hk key List.mem_cons_self]
    refine and_congr_left fun _ => ?_
    cases hx : members.lookup key with
    | none => exact Iff.rfl
    | some x =>
      have hp : (Fields.cons key form presence rest).pruneMember key x = some (form.prune x) := by
        rw [Fields.pruneMember, if_pos rfl]
      rw [Option.bind_some, hp]
      exact Form.decode_prune form hform (hn _ (Members.mem_of_lookup hx)) a

end

end QualityGate.Wire
