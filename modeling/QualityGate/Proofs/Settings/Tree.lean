import QualityGate.Proofs.Members
import QualityGate.Settings.Value

namespace QualityGate.Setting

open Members (lookup_cons lookup_insert)

def isGroup : Setting → Bool
  | group _ _ => true
  | leaf _ _ | list _ _ => false

def member? (name : String) : Setting → Option Setting
  | group _ members => members.lookup name
  | leaf _ _ | list _ _ => none

def at? (s : Setting) : List String → Option Setting
  | [] => some s
  | step :: path => (s.member? step).bind fun v => v.at? path

/-- On the way to a path there are only groups, as far as anything is there. -/
def Open (s : Setting) (path : List String) : Prop :=
  ∀ before step, before ++ [step] <+: path → ∀ v, s.at? before = some v → v.isGroup = true

/-- The names of the members of each group are in order. -/
inductive Neat : Setting → Prop
  | leaf {o : Origin} {content : Scalar} : Neat (leaf o content)
  | list {o : Origin} {items : List Setting} : Neat (list o items)
  | group {o : Origin} {members : List (String × Setting)} (hs : Members.Sorted members)
      (hm : ∀ m ∈ members, Neat m.2) : Neat (group o members)

theorem Neat.member {s v : Setting} {name : String} (h : s.Neat) (hv : s.member? name = some v) :
    v.Neat := by
  cases h with
  | leaf | list => cases hv
  | group hs hm => exact hm _ (Members.mem_of_lookup hv)

variable {a b s : Setting} {path : List String} {step : String}

theorem Open.isGroup (h : s.Open (step :: path)) : s.isGroup = true :=
  h [] step (List.prefix_append [step] path) s rfl

theorem Open.member {v : Setting} (h : s.Open (step :: path)) (hv : s.member? step = some v) :
    v.Open path := by
  intro before k hp x hx
  refine h (step :: before) k (List.cons_prefix_cons.mpr ⟨rfl, hp⟩) x ?_
  rw [at?, hv]
  exact hx

theorem open_nil (s : Setting) : s.Open [] := by
  intro before step hp
  simp at hp

theorem open_cons_iff : s.Open (step :: path) ↔
    s.isGroup = true ∧ ∀ v ∈ s.member? step, v.Open path := by
  refine ⟨fun h => ⟨h.isGroup, fun v hv => h.member hv⟩, ?_⟩
  rintro ⟨hg, hm⟩ before k hp v hv
  cases before with
  | nil =>
    obtain rfl := Option.some.inj hv
    exact hg
  | cons first before =>
    obtain ⟨rfl, hrest⟩ := List.cons_prefix_cons.mp hp
    obtain ⟨x, hx, hv⟩ := Option.bind_eq_some_iff.mp hv
    exact hm x hx before k hrest v hv

instance decidableOpen : (path : List String) → (s : Setting) → Decidable (s.Open path)
  | [], s => isTrue (open_nil s)
  | _ :: path, _ =>
    have (v : Setting) : Decidable (v.Open path) := decidableOpen path v
    decidable_of_iff _ open_cons_iff.symm

/-- What counts of the values that two trees have at one path. -/
def override : Option Setting → Option Setting → Option Setting
  | some a, some b => some (merge a b)
  | a, none => a
  | none, b => b

theorem lookup_mergeMembers (earlier : List (String × Setting)) {later : List (String × Setting)}
    (hn : (later.map Prod.fst).Nodup) (name : String) :
    (mergeMembers earlier later).lookup name =
      override (earlier.lookup name) (later.lookup name) := by
  induction later generalizing earlier with
  | nil => cases h : earlier.lookup name <;> simp [mergeMembers, override, h]
  | cons m later ih =>
    obtain ⟨k, v⟩ := m
    obtain ⟨hk, hr⟩ := List.nodup_cons.mp hn
    have hl : later.lookup k = none := Members.lookup_eq_none_of_not_mem hk
    rw [mergeMembers, lookup_cons]
    by_cases he : name = k
    · subst he
      cases hx : earlier.lookup name <;> simp [ih _ hr, lookup_insert, hl, override]
    · cases hx : earlier.lookup k <;> simp [ih _ hr, lookup_insert, he]

theorem merge_of_not_isGroup (a : Setting) (h : b.isGroup = false) : merge a b = b := by
  cases b with
  | leaf | list => rw [merge]
  | group => cases h

theorem merge_group_of_not_isGroup (o : Origin) (members : List (String × Setting))
    (h : a.isGroup = false) : merge a (group o members) = group o members := by
  cases a with
  | leaf | list => simp [merge]
  | group => cases h

theorem isGroup_merge (a b : Setting) : (merge a b).isGroup = b.isGroup := by
  cases b with
  | leaf | list => rw [merge]
  | group o members =>
    cases a with
    | leaf | list => rw [merge_group_of_not_isGroup o members rfl]
    | group => rw [merge]; rfl

theorem member?_merge (ha : a.isGroup = true) (hb : b.isGroup = true) (hn : b.Neat)
    (name : String) : (merge a b).member? name = override (a.member? name) (b.member? name) := by
  cases hn with
  | leaf | list => cases hb
  | group hs hm =>
    cases a with
    | leaf | list => cases ha
    | group o members =>
      rw [merge]
      exact lookup_mergeMembers members hs.nodup name

theorem at?_merge (ha : a.Open path) (hb : b.Open path) (hn : b.Neat) :
    (merge a b).at? path = override (a.at? path) (b.at? path) := by
  induction path generalizing a b with
  | nil => rfl
  | cons step path ih =>
    rw [at?, at?, at?, member?_merge ha.isGroup hb.isGroup hn]
    cases hx : a.member? step with
    | none =>
      cases hy : b.member? step with
      | none => rfl
      | some y => cases h : y.at? path <;> simp [override, h]
    | some x =>
      cases hy : b.member? step with
      | none => cases h : x.at? path <;> simp [override, h]
      | some y => exact ih (ha.member hx) (hb.member hy) (hn.member hy)

theorem Open.mono {before : List String} (h : s.Open path) (hp : before <+: path) :
    s.Open before :=
  fun p step hs => h p step (hs.trans hp)

theorem Open.merge (ha : a.Open path) (hb : b.Open path) (hn : b.Neat) :
    (merge a b).Open path := by
  intro before step hp v hv
  have hb' : before <+: path := (List.prefix_append before [step]).trans hp
  rw [at?_merge (ha.mono hb') (hb.mono hb') hn] at hv
  cases hx : a.at? before with
  | none =>
    cases hy : b.at? before with
    | none => simp [override, hx, hy] at hv
    | some y =>
      obtain rfl : y = v := by simpa [override, hx, hy] using hv
      exact hb before step hp y hy
  | some x =>
    cases hy : b.at? before with
    | none =>
      obtain rfl : x = v := by simpa [override, hx, hy] using hv
      exact ha before step hp x hx
    | some y =>
      obtain rfl : Setting.merge x y = v := by simpa [override, hx, hy] using hv
      rw [isGroup_merge]
      exact hb before step hp y hy

theorem neat_mergeMembers {earlier later : List (String × Setting)}
    (hs : Members.Sorted earlier) (he : ∀ m ∈ earlier, m.2.Neat) (hl : ∀ m ∈ later, m.2.Neat)
    (ih : ∀ m ∈ later, ∀ a : Setting, a.Neat → (Setting.merge a m.2).Neat) :
    Members.Sorted (mergeMembers earlier later) ∧ ∀ m ∈ mergeMembers earlier later, m.2.Neat := by
  induction later generalizing earlier with
  | nil => exact ⟨hs, he⟩
  | cons m later hind =>
    obtain ⟨k, v⟩ := m
    have hins : ∀ value : Setting, value.Neat →
        ∀ m ∈ Members.insert k value earlier, m.2.Neat := by
      intro value hv m hm
      rcases Members.mem_insert hm with rfl | hm
      · exact hv
      · exact he m hm
    have hl' : ∀ m ∈ later, m.2.Neat := fun m hm => hl m (List.mem_cons_of_mem _ hm)
    have ih' : ∀ m ∈ later, ∀ a : Setting, a.Neat → (Setting.merge a m.2).Neat :=
      fun m hm => ih m (List.mem_cons_of_mem _ hm)
    rw [mergeMembers]
    split
    · next value hx =>
      have hv : value.Neat := he _ (Members.mem_of_lookup hx)
      exact hind (hs.insert k _) (hins _ (ih _ List.mem_cons_self value hv)) hl' ih'
    · exact hind (hs.insert k _) (hins _ (hl _ List.mem_cons_self)) hl' ih'

theorem Neat.merge (ha : a.Neat) (hb : b.Neat) : (merge a b).Neat := by
  induction hb generalizing a with
  | leaf | list => rw [Setting.merge]; constructor
  | group hs hm ih =>
    cases ha with
    | leaf | list =>
      rw [merge_group_of_not_isGroup _ _ rfl]
      exact .group hs hm
    | group hs' hm' =>
      rw [Setting.merge]
      obtain ⟨h₁, h₂⟩ := neat_mergeMembers hs' hm' hm fun m hm a ha => ih m hm ha
      exact .group h₁ h₂

/-- What counts of some values, the later ones over the earlier ones. -/
def overlay : List Setting → Option Setting
  | [] => none
  | s :: rest => some (rest.foldl Setting.merge s)

theorem overlay_override (x y : Option Setting) (rest : List Setting) :
    overlay ((override x y).toList ++ rest) = overlay (x.toList ++ (y.toList ++ rest)) := by
  cases x <;> cases y <;> rfl

theorem exists_overlay {values : List Setting} (h : values ≠ []) :
    ∃ v, overlay values = some v := by
  obtain ⟨s, rest, rfl⟩ := List.exists_cons_of_ne_nil h
  exact ⟨_, rfl⟩

section Sources

variable {sources : List Setting} {all : Setting}

theorem of_overlay {P : Setting → Prop} (hm : ∀ a b, P a → P b → P (a.merge b))
    (h : overlay sources = some all) (hp : ∀ l ∈ sources, P l) : P all := by
  cases sources with
  | nil => cases h
  | cons s rest =>
    induction rest generalizing s with
    | nil =>
      obtain rfl := Option.some.inj h
      exact hp s List.mem_cons_self
    | cons l rest ih =>
      obtain ⟨hs, hp⟩ := List.forall_mem_cons.mp hp
      obtain ⟨hl, hp⟩ := List.forall_mem_cons.mp hp
      exact ih (s.merge l) h (List.forall_mem_cons.mpr ⟨hm s l hs hl, hp⟩)

theorem neat_of_overlay (h : overlay sources = some all) (hn : ∀ l ∈ sources, l.Neat) :
    all.Neat :=
  of_overlay (fun _ _ ha hb => ha.merge hb) h hn

theorem open_of_overlay (h : overlay sources = some all) (hn : ∀ l ∈ sources, l.Neat)
    (ho : ∀ l ∈ sources, l.Open path) : all.Open path := by
  have hm : ∀ a b : Setting, a.Neat ∧ a.Open path → b.Neat ∧ b.Open path →
      (a.merge b).Neat ∧ (a.merge b).Open path :=
    fun a b ha hb => ⟨ha.1.merge hb.1, ha.2.merge hb.2 hb.1⟩
  exact (of_overlay hm h fun l hl => ⟨hn l hl, ho l hl⟩).2

theorem at?_of_overlay (h : overlay sources = some all) (hn : ∀ l ∈ sources, l.Neat)
    (ho : ∀ l ∈ sources, l.Open path) :
    all.at? path = overlay (sources.filterMap fun l => l.at? path) := by
  cases sources with
  | nil => cases h
  | cons s rest =>
    induction rest generalizing s with
    | nil =>
      obtain rfl := Option.some.inj h
      cases hs : s.at? path <;> simp [hs, overlay]
    | cons l rest ih =>
      obtain ⟨hs, hn⟩ := List.forall_mem_cons.mp hn
      obtain ⟨hl, hn⟩ := List.forall_mem_cons.mp hn
      obtain ⟨hso, ho⟩ := List.forall_mem_cons.mp ho
      obtain ⟨hlo, ho⟩ := List.forall_mem_cons.mp ho
      have hc : ∀ (x : Setting) (xs : List Setting),
          (x :: xs).filterMap (fun l => l.at? path) =
            (x.at? path).toList ++ xs.filterMap (fun l => l.at? path) := by
        intro x xs
        cases h : x.at? path <;> simp [h]
      rw [ih (s.merge l) h (List.forall_mem_cons.mpr ⟨hs.merge hl, hn⟩)
        (List.forall_mem_cons.mpr ⟨hso.merge hlo hl, ho⟩), hc, hc, hc, at?_merge hso hlo hl,
        overlay_override]

end Sources

theorem getLast?_of_overlay {values : List Setting} {v : Setting}
    (h : overlay values = some v) (hv : v.isGroup = false) : values.getLast? = some v := by
  obtain rfl | ⟨front, last, rfl⟩ := List.eq_nil_or_concat' values
  · cases h
  · rw [List.getLast?_concat]
    cases front with
    | nil => exact h
    | cons s rest =>
      rw [List.cons_append, overlay, List.foldl_append] at h
      obtain rfl := Option.some.inj h
      rw [List.foldl_cons, List.foldl_nil, isGroup_merge] at hv
      exact congrArg some (merge_of_not_isGroup _ hv).symm

end QualityGate.Setting
