import QualityGate.Proofs.Settings.Tree
import QualityGate.Proofs.Wire.Record
import QualityGate.Settings.Load

namespace QualityGate

open Wire

namespace Setting

variable {o : Origin}

theorem neat_nothing (o : Origin) : (nothing o).Neat :=
  .group List.Pairwise.nil fun _ hm => absurd hm List.not_mem_nil

theorem neat_arrange {members : List (String × Setting)} (h : ∀ m ∈ members, m.2.Neat) :
    (group o (Members.arrange members)).Neat :=
  .group (Members.sorted_arrange members) fun m hm => h m (Members.mem_arrange hm)

theorem neat_single {name : String} {s : Setting} (h : s.Neat) : (group o [(name, s)]).Neat := by
  refine .group (List.pairwise_singleton _ _) fun m hm => ?_
  rw [List.mem_singleton.mp hm]
  exact h

theorem map_fst_ofMembers (members : List (String × Json)) :
    (ofMembers o members).map Prod.fst = members.map Prod.fst := by
  induction members with
  | nil => rfl
  | cons m members ih => rw [ofMembers, List.map_cons, List.map_cons, ih]

theorem exists_of_mem_ofMembers {members : List (String × Json)} {m : String × Setting}
    (h : m ∈ ofMembers o members) : ∃ x ∈ members, m = (x.1, ofJson o x.2) := by
  induction members with
  | nil => cases h
  | cons x members ih =>
    rcases List.mem_cons.mp h with rfl | h
    · exact ⟨x, List.mem_cons_self, rfl⟩
    · obtain ⟨y, hy, he⟩ := ih h
      exact ⟨y, List.mem_cons_of_mem x hy, he⟩

mutual

theorem neat_encode : {α : Type} → (f : Form α) → (a : α) → (ofJson o (f.encode a)).Neat
  | _, .text, _ | _, .flag, _ | _, .word64, _ | _, .int32, _ | _, .oneOf _ _ _, _ => .leaf
  | _, .optional form, a => by
    cases a with
    | none => exact .leaf
    | some a => exact neat_encode form a
  | _, .list _, _ => .list
  | _, .record _ fields _ parts _, a => by
    rw [Form.encode, Json.ofMembers, ofJson]
    refine .group (List.pairwise_map.mp ?_) fun m hm => ?_
    · rw [map_fst_ofMembers]
      exact List.pairwise_map.mpr (Members.sorted_arrange _)
    · obtain ⟨x, hx, rfl⟩ := exists_of_mem_ofMembers hm
      exact neat_encodeFields fields (parts a) x (Members.mem_arrange hx)

theorem neat_encodeFields : {β σ : Type} → (fields : Fields β σ) → (b : β) →
    ∀ m ∈ Form.encodeFields fields b, (ofJson o m.2).Neat
  | _, _, .nil, _, _, hm => by cases hm
  | _, _, .cons key form presence rest, (a, b), m, hm => by
    rw [Form.encodeFields] at hm
    split at hm
    · exact neat_encodeFields rest b m hm
    · rcases List.mem_cons.mp hm with rfl | hm
      · exact neat_encode form a
      · exact neat_encodeFields rest b m hm

end

section Yaml

open Yaml

variable {α β : Type} {P : α → Prop} {Q : β → Prop}

def Gives (P : α → Prop) (x : FollowM α) : Prop :=
  ∀ count a count', x.run count = some (a, count') → P a

theorem Gives.pure {a : α} (h : P a) : Gives P (pure a) := by
  intro count b count' hb
  obtain ⟨rfl, -⟩ := Prod.mk.inj (Option.some.inj hb)
  exact h

theorem Gives.failure : Gives P (failure : FollowM α) := by
  intro count a count' h
  cases h

theorem Gives.bind {x : FollowM α} {f : α → FollowM β} (hx : Gives P x)
    (hf : ∀ a, P a → Gives Q (f a)) : Gives Q (x >>= f) := by
  intro count b count' h
  rw [StateT.run_bind] at h
  obtain ⟨⟨a, between⟩, ha, hb⟩ := Option.bind_eq_some_iff.mp h
  exact hf a (hx count a between ha) between b count' hb

theorem Gives.mapM {f : α → FollowM β} (h : ∀ a, Gives Q (f a)) (as : List α) :
    Gives (fun bs => ∀ b ∈ bs, Q b) (as.mapM f) := by
  induction as with
  | nil => exact Gives.pure fun b hb => absurd hb List.not_mem_nil
  | cons a as ih =>
    rw [List.mapM_cons]
    refine (h a).bind fun b hb => ih.bind fun bs hbs => Gives.pure fun x hx => ?_
    rcases List.mem_cons.mp hx with rfl | hx
    · exact hb
    · exact hbs x hx

theorem Gives.trivial (x : FollowM α) : Gives (fun _ => True) x :=
  fun _ _ _ _ => True.intro

variable {anchors : Anchors}

theorem neat_tagged {marks : Marks} {s : Setting} (h : s.Neat) : (tagged o marks s).Neat := by
  rw [tagged]
  split
  · exact neat_single h
  · exact h

theorem gives_groupOf {valueOf : Node → FollowM Setting} (h : ∀ n, Gives Neat (valueOf n))
    (members : List (Node × Node)) : Gives Neat (groupOf anchors o valueOf members) := by
  have hm : ∀ m : Node × Node, Gives (fun x : String × Setting => x.2.Neat)
      (do return (← nameOf anchors m.1, ← valueOf m.2)) :=
    fun m => (Gives.trivial _).bind fun _ _ => (h m.2).bind fun _ hs => Gives.pure hs
  exact (Gives.mapM hm members).bind fun ms hms => Gives.pure (neat_arrange hms)

theorem gives_ofMarkedScalar (marks : Marks) (plain : Bool) (text : String) :
    Gives Neat (ofMarkedScalar o marks plain text) := by
  rw [ofMarkedScalar]
  split
  · exact Gives.pure (neat_tagged .leaf)
  · exact Gives.failure

theorem gives_ofNode (depth : Nat) (n : Node) : Gives Neat (ofNode anchors o depth n) := by
  induction depth generalizing n with
  | zero =>
    rw [ofNode]
    refine (Gives.trivial _).bind fun m _ => ?_
    cases m with
    | scalar marks plain text => exact gives_ofMarkedScalar marks plain text
    | sequence | mapping | again => exact Gives.failure
  | succ depth ih =>
    rw [ofNode]
    refine (Gives.trivial _).bind fun m _ => ?_
    cases m with
    | scalar marks plain text => exact gives_ofMarkedScalar marks plain text
    | sequence marks items =>
      exact (Gives.trivial _).bind fun _ _ => Gives.pure (neat_tagged .list)
    | mapping marks members =>
      exact (gives_groupOf ih members).bind fun _ hs => Gives.pure (neat_tagged hs)
    | again => exact Gives.failure

theorem neat_ofYaml? {text : String} {s : Setting} (h : ofYaml? o text = some s) : s.Neat := by
  rw [ofYaml?] at h
  split at h
  · cases h
  · obtain rfl := Option.some.inj h
    exact neat_nothing o
  · split_ifs at h
    obtain rfl := Option.some.inj h
    exact neat_nothing o
  · next marks members _ =>
    obtain ⟨⟨s', count⟩, hs, rfl⟩ := Option.map_eq_some_iff.mp h
    exact gives_groupOf (gives_ofNode _) members 0 s' count hs
  · cases h

end Yaml

end Setting

theorem neat_fileLayer? {tree : FileTree} {cwd : Place} {path : String} {s : Setting}
    (h : fileLayer? tree cwd path = some s) : s.Neat := by
  rw [fileLayer?] at h
  split at h
  · obtain rfl := Option.some.inj h
    exact Setting.neat_nothing _
  · obtain ⟨text, -, hs⟩ := Option.bind_eq_some_iff.mp h
    exact Setting.neat_ofYaml? hs

namespace Environment

open Setting

theorem neat_items? {fuel : Nat} {before : List Setting} {cs rest : List Char} {v : Setting}
    (h : items? fuel before cs = some (v, rest)) : v.Neat := by
  induction fuel generalizing before cs with
  | zero => cases h
  | succ fuel ih =>
    rw [items?.eq_def] at h
    dsimp only at h
    split at h
    · obtain ⟨rfl, -⟩ := Prod.mk.inj (Option.some.inj h)
      exact .list
    · obtain ⟨⟨item, cs'⟩, -, h⟩ := Option.bind_eq_some_iff.mp h
      dsimp only at h
      split at h
      · exact ih h
      · obtain ⟨rfl, -⟩ := Prod.mk.inj (Option.some.inj h)
        exact .list
      · cases h

theorem neat_members? {fuel : Nat} {before : List (String × Setting)} {cs rest : List Char}
    {v : Setting} (hv : ∀ n cs x rest, n < fuel → value? n cs = some (x, rest) → x.Neat)
    (hb : ∀ m ∈ before, m.2.Neat) (h : members? fuel before cs = some (v, rest)) : v.Neat := by
  induction fuel generalizing before cs with
  | zero => cases h
  | succ fuel ih =>
    have hb' : ∀ m ∈ before.reverse, m.2.Neat := fun m hm => hb m (List.mem_reverse.mp hm)
    rw [members?.eq_def] at h
    dsimp only at h
    split at h
    · obtain ⟨rfl, -⟩ := Prod.mk.inj (Option.some.inj h)
      exact neat_arrange hb'
    · obtain ⟨⟨name, cs₁⟩, -, h⟩ := Option.bind_eq_some_iff.mp h
      dsimp only at h
      split at h
      · obtain ⟨⟨x, cs₂⟩, hx, h⟩ := Option.bind_eq_some_iff.mp h
        have hcons : ∀ m ∈ (name, x) :: before, m.2.Neat := by
          intro m hm
          rcases List.mem_cons.mp hm with rfl | hm
          · exact hv fuel _ x cs₂ (Nat.lt_succ_self fuel) hx
          · exact hb m hm
        dsimp only at h
        split at h
        · exact ih (fun n cs x rest hn => hv n cs x rest (Nat.lt_succ_of_lt hn)) hcons h
        · obtain ⟨rfl, -⟩ := Prod.mk.inj (Option.some.inj h)
          exact neat_arrange fun m hm => hcons m (List.mem_reverse.mp hm)
        · cases h
      · cases h

theorem neat_value? {fuel : Nat} {cs rest : List Char} {v : Setting}
    (h : value? fuel cs = some (v, rest)) : v.Neat := by
  induction fuel using Nat.strong_induction_on generalizing cs v rest with
  | _ fuel ih =>
    cases fuel with
    | zero => cases h
    | succ fuel =>
      rw [value?.eq_def] at h
      dsimp only at h
      split at h
      · obtain ⟨rfl, -⟩ := Prod.mk.inj (Option.some.inj h)
        exact .leaf
      · obtain ⟨rfl, -⟩ := Prod.mk.inj (Option.some.inj h)
        exact .leaf
      · obtain ⟨⟨x, cs'⟩, hx, he⟩ := Option.map_eq_some_iff.mp h
        obtain ⟨rfl, -⟩ := Prod.mk.inj he
        refine neat_members? (fun n cs x rest hn hx => ?_) (fun m hm => ?_) hx
        · exact ih n (Nat.lt_succ_of_lt hn) hx
        · exact absurd hm List.not_mem_nil
      · obtain ⟨⟨x, cs'⟩, hx, he⟩ := Option.map_eq_some_iff.mp h
        obtain ⟨rfl, -⟩ := Prod.mk.inj he
        exact neat_items? hx
      · obtain ⟨⟨x, cs'⟩, -, he⟩ := Option.map_eq_some_iff.mp h
        obtain ⟨rfl, -⟩ := Prod.mk.inj he
        exact .leaf
      · obtain ⟨rfl, -⟩ := Prod.mk.inj (Option.some.inj h)
        exact .leaf
      · cases h
      · obtain ⟨rfl, -⟩ := Prod.mk.inj (Option.some.inj h)
        exact .leaf

theorem neat_ofText (text : String) : (ofText text).Neat := by
  rw [ofText]
  split
  · next v h => exact neat_value? h
  · exact .leaf

theorem neat_nest {v : Setting} (h : v.Neat) (path : List String) : (nest path v).Neat := by
  induction path with
  | nil => exact h
  | cons step path ih => exact neat_single ih

/-- What each variable for settings tells, as a tree of its own. -/
def assignments (environment : List (String × String)) : List Setting :=
  (Members.arrange environment).filterMap fun v =>
    (path? v.1).map fun path => nest path (ofText v.2)

theorem neat_assignments {environment : List (String × String)} :
    ∀ v ∈ assignments environment, v.Neat := by
  intro v hv
  obtain ⟨m, -, hm⟩ := List.mem_filterMap.mp hv
  obtain ⟨path, -, rfl⟩ := Option.map_eq_some_iff.mp hm
  exact neat_nest (neat_ofText m.2) path

theorem overlay_layer (environment : List (String × String)) :
    overlay (nothing .environment :: assignments environment) = some (layer environment) := by
  rw [layer, overlay, assignments, List.foldl_filterMap]
  congr 2
  funext s v
  cases path? v.1 <;> rfl

theorem neat_layer (environment : List (String × String)) : (layer environment).Neat := by
  refine neat_of_overlay (overlay_layer environment) ?_
  exact List.forall_mem_cons.mpr ⟨neat_nothing _, neat_assignments⟩

theorem at?_layer {environment : List (String × String)} {step : String} {path : List String}
    (h : ∀ v ∈ assignments environment, v.Open (step :: path)) :
    (layer environment).at? (step :: path) =
      overlay ((assignments environment).filterMap fun v => v.at? (step :: path)) := by
  have hopen : (nothing .environment).Open (step :: path) := by
    intro before k hp v hv
    cases before with
    | nil =>
      obtain rfl := Option.some.inj hv
      rfl
    | cons k before => cases hv
  rw [at?_of_overlay (overlay_layer environment)
    (List.forall_mem_cons.mpr ⟨neat_nothing _, neat_assignments⟩)
    (List.forall_mem_cons.mpr ⟨hopen, h⟩)]
  rfl

end Environment

end QualityGate
