import Mathlib.Data.List.Infix
import Mathlib.Data.List.Nodup
import QualityGate.Proofs.Settings.Sources
import QualityGate.Proofs.Text.Blank

namespace QualityGate.Environment

open Text Setting

/-- A text taken apart at its dots and its pairs of underscores. Where more than two underscores
stand in a row, the first two are the pair. -/
inductive Parted : List Char → List (List Char) → Prop
  | last {step : List Char} (hd : '.' ∉ step) (hu : ¬ ['_', '_'] <:+: step) : Parted step [step]
  | dot {step rest : List Char} {steps : List (List Char)} (hd : '.' ∉ step)
      (hu : ¬ ['_', '_'] <:+: step) (h : Parted rest steps) :
      Parted (step ++ '.' :: rest) (step :: steps)
  | pair {step rest : List Char} {steps : List (List Char)} (hd : '.' ∉ step)
      (hu : ¬ ['_', '_'] <:+: step ++ ['_']) (h : Parted rest steps) :
      Parted (step ++ '_' :: '_' :: rest) (step :: steps)

/-- A variable is named for a key: what its name says after the start that all such names have is
the way to the key, in letters of any case. -/
inductive Names (name : String) : List String → Prop
  | mk {core rest body : List Char} {steps : List (List Char)}
      (hn : Blank.Stripped name.toList core)
      (hs : core.map Char.toLower = "quality_hook_".toList ++ rest)
      (hb : Blank.Stripped rest body) (hp : Parted body steps) (he : [] ∉ steps) :
      Names name (steps.map String.ofList)

/-- What the variables of an environment tell of a key: nothing, if none of them is named for it,
for a part of it or for what it is a part of, and otherwise the value of the only one that is. -/
inductive Told (environment : List (String × String)) (path : List String) : Option Setting → Prop
  | silent (h : ∀ v ∈ environment, ∀ path', Names v.1 path' → ¬ path' <+: path ∧ ¬ path <+: path') :
      Told environment path none
  | set {name text : String} (hm : (name, text) ∈ environment) (hn : Names name path)
      (h : ∀ v ∈ environment, ∀ path', Names v.1 path' → path' <+: path ∨ path <+: path' →
        v = (name, text)) :
      Told environment path (some (ofText text))

theorem dotted_cons {c : Char} {cs : List Char} (h : ¬ ['_', '_'] <+: c :: cs) :
    dotted (c :: cs) = c :: dotted cs := by
  rw [dotted]
  rintro cs rfl rfl
  exact h (List.prefix_append ['_', '_'] cs)

theorem dotted_append {step rest : List Char} (h : ¬ ['_', '_'] <:+: step ++ rest.take 1) :
    dotted (step ++ rest) = step ++ dotted rest := by
  induction step with
  | nil => rfl
  | cons c step ih =>
    have hc : ¬ ['_', '_'] <+: c :: (step ++ rest) := by
      intro hp
      have hw : c :: step ++ rest.take 1 <+: c :: (step ++ rest) :=
        List.prefix_append_right_inj (c :: step) |>.mpr (List.take_prefix 1 rest)
      refine h (List.IsPrefix.isInfix ?_)
      cases rest with
      | nil => simpa using hp
      | cons d rest => exact List.prefix_of_prefix_length_le hp hw (by simp)
    have hs : ¬ ['_', '_'] <:+: step ++ rest.take 1 :=
      fun hi => h (List.infix_cons hi)
    rw [List.cons_append, dotted_cons hc, ih hs, List.cons_append]

theorem segments_eq_splitOn (cs : List Char) : segments cs = cs.splitOn '.' := by
  induction cs with
  | nil => rfl
  | cons c cs ih =>
    rw [segments, List.splitOn_cons_eq_if_modifyHead, ih]
    by_cases hc : c = '.'
    · simp [hc]
    · obtain ⟨step, steps, hs⟩ := List.exists_cons_of_ne_nil (List.splitOn_ne_nil '.' cs)
      simp [hc, hs]

theorem Parted.eq {cs : List Char} {steps : List (List Char)} (h : Parted cs steps) :
    (dotted cs).splitOn '.' = steps := by
  induction h with
  | @last step hd hu =>
    have hs : dotted (step ++ []) = step ++ [] := dotted_append (by simpa using hu)
    rw [List.append_nil] at hs
    rw [hs, List.splitOn_eq_singleton hd]
  | @dot step rest steps hd hu _ ih =>
    have hs : ¬ ['_', '_'] <:+: step ++ ('.' :: rest).take 1 := by
      intro hi
      rcases List.infix_concat_iff.mp hi with ⟨t, ht⟩ | hi
      · simpa using congrArg List.getLast? ht
      · exact hu hi
    rw [dotted_append hs, dotted_cons (by simp), List.splitOn_append_cons_self_of_not_mem hd, ih]
  | @pair step rest steps hd hu _ ih =>
    rw [dotted_append hu, dotted, List.splitOn_append_cons_self_of_not_mem hd, ih]

theorem Parted.push {c : Char} {cs step : List Char} {steps : List (List Char)} (hc : c ≠ '.')
    (hp : ¬ ['_', '_'] <+: c :: cs) (h : Parted cs (step :: steps)) :
    Parted (c :: cs) ((c :: step) :: steps) := by
  have hd : ∀ {step : List Char}, '.' ∉ step → '.' ∉ c :: step := fun hs hm =>
    (List.mem_cons.mp hm).elim (Ne.symm hc) hs
  cases h with
  | last hs hu =>
    refine .last (hd hs) fun hi => ?_
    exact (List.infix_cons_iff.mp hi).elim hp hu
  | @dot _ rest _ hs hu h =>
    refine .dot (hd hs) (fun hi => ?_) h
    exact (List.infix_cons_iff.mp hi).elim (fun hx => hp (hx.trans (List.prefix_append _ _))) hu
  | @pair _ rest _ hs hu h =>
    refine .pair (hd hs) (fun hi => ?_) h
    refine (List.infix_cons_iff.mp hi).elim (fun hx => hp (hx.trans ?_)) hu
    simp

theorem parted_splitOn (cs : List Char) : Parted cs ((dotted cs).splitOn '.') := by
  induction cs using dotted.induct with
  | case1 cs ih =>
    rw [dotted, List.splitOn_cons_eq_if_modifyHead, if_pos (beq_self_eq_true _)]
    exact @Parted.pair [] _ _ (by simp) (by decide) ih
  | case2 c cs h ih =>
    have hp : ¬ ['_', '_'] <+: c :: cs := by
      rintro ⟨t, ht⟩
      obtain ⟨rfl, rfl⟩ := List.cons.inj ht
      exact h t rfl rfl
    rw [dotted_cons hp, List.splitOn_cons_eq_if_modifyHead]
    split_ifs with hc
    · obtain rfl : c = '.' := by simpa using hc
      exact @Parted.dot [] _ _ (by simp) (by simp) ih
    · obtain ⟨step, steps, hs⟩ := List.exists_cons_of_ne_nil (List.splitOn_ne_nil '.' (dotted cs))
      rw [hs] at ih ⊢
      exact ih.push (by simpa using hc) hp
  | case3 => exact .last (by simp) (by simp)

theorem path?_eq_some_iff {name : String} {path : List String} :
    path? name = some path ↔ Names name path := by
  have hstart : start.toList.map Char.toLower = "quality_hook_".toList := by decide
  have hlen : start.length = "quality_hook_".toList.length := by decide
  rw [path?, hstart, hlen, Option.ite_none_right_eq_some, List.isPrefixOf_iff_prefix,
    Option.ite_none_left_eq_some, Option.some.injEq]
  constructor
  · rintro ⟨⟨rest, hr⟩, he, rfl⟩
    rw [← hr, List.drop_left, segments_eq_splitOn] at he ⊢
    exact .mk (Blank.stripped_trim _) hr.symm (Blank.stripped_trim _) (parted_splitOn _)
      (by simpa using he)
  · rintro ⟨hn, hs, hb, hp, he⟩
    rw [Blank.stripped_iff.mp hn, hs, List.drop_left, Blank.stripped_iff.mp hb,
      segments_eq_splitOn, hp.eq]
    exact ⟨List.prefix_append _ _, by simpa using he, rfl⟩

theorem Names.unique {name : String} {path path' : List String} (h : Names name path)
    (h' : Names name path') : path = path' :=
  Option.some.inj ((path?_eq_some_iff.mpr h).symm.trans (path?_eq_some_iff.mpr h'))

section Nest

variable {v : Setting} {path path' : List String}

theorem at?_nest (v : Setting) (path : List String) : (nest path v).at? path = some v := by
  induction path with
  | nil => rfl
  | cons step path ih => simpa [nest, at?, member?] using ih

theorem at?_nest_eq_none (hp : ¬ path' <+: path) (hp' : ¬ path <+: path') :
    (nest path v).at? path' = none := by
  induction path generalizing path' with
  | nil => exact absurd (List.nil_prefix) hp'
  | cons step path ih =>
    cases path' with
    | nil => exact absurd (List.nil_prefix) hp
    | cons step' path' =>
      rw [nest, at?, member?, Members.lookup_cons]
      split_ifs with hs
      · obtain rfl : step' = step := hs
        rw [List.cons_prefix_cons] at hp hp'
        exact ih (fun h => hp ⟨rfl, h⟩) fun h => hp' ⟨rfl, h⟩
      · rfl

theorem open_nest (hp : ¬ path <+: path' ∨ path = path') : (nest path v).Open path' := by
  induction path generalizing path' with
  | nil =>
    obtain rfl : [] = path' := hp.resolve_left (not_not_intro List.nil_prefix)
    exact open_nil _
  | cons step path ih =>
    cases path' with
    | nil => exact open_nil _
    | cons step' path' =>
      refine open_cons_iff.mpr ⟨rfl, fun x hx => ?_⟩
      rw [nest, member?, Option.mem_def, Members.lookup_cons] at hx
      split_ifs at hx with hs
      · obtain rfl : step' = step := hs
        obtain rfl := Option.some.inj hx
        refine ih (hp.imp (fun h hx => h (List.cons_prefix_cons.mpr ⟨rfl, hx⟩)) fun h => ?_)
        exact (List.cons.inj h).2
      · cases hx

end Nest

section Told

variable {environment : List (String × String)} {step name text : String} {path : List String}

theorem exists_of_mem_assignments {t : Setting} (h : t ∈ assignments environment) :
    ∃ v ∈ environment, ∃ path, Names v.1 path ∧ t = nest path (ofText v.2) := by
  obtain ⟨v, hv, ht⟩ := List.mem_filterMap.mp h
  obtain ⟨path, hp, rfl⟩ := Option.map_eq_some_iff.mp ht
  exact ⟨v, Members.mem_arrange hv, path, path?_eq_some_iff.mp hp, rfl⟩

/-- What a variable tells of a key. -/
def told? (path : List String) (v : String × String) : Option Setting :=
  ((path? v.1).map fun path => nest path (ofText v.2)).bind fun t => t.at? path

theorem told?_eq_some (hn : Names name path) : told? path (name, text) = some (ofText text) := by
  rw [told?, path?_eq_some_iff.mpr hn]
  exact at?_nest _ path

theorem told?_eq_none {v : String × String}
    (h : ∀ path', Names v.1 path' → ¬ path' <+: path ∧ ¬ path <+: path') : told? path v = none := by
  rw [told?]
  cases hp : path? v.1 with
  | none => rfl
  | some path' =>
    obtain ⟨hp, hp'⟩ := h path' (path?_eq_some_iff.mp hp)
    exact at?_nest_eq_none hp' hp

theorem filterMap_assignments (environment : List (String × String)) (path : List String) :
    ((assignments environment).filterMap fun t => t.at? path) =
      (Members.arrange environment).filterMap (told? path) := by
  rw [assignments, List.filterMap_filterMap]
  rfl

/-- A key has the value of the variable that is named for it. -/
theorem Told.at?_layer {v : Option Setting} (h : Told environment (step :: path) v) :
    (layer environment).at? (step :: path) = v := by
  cases h with
  | silent h =>
    have ho : ∀ t ∈ assignments environment, t.Open (step :: path) := by
      intro t ht
      obtain ⟨v, hv, path', hn, rfl⟩ := exists_of_mem_assignments ht
      exact open_nest (.inl (h v hv path' hn).1)
    have hs : ∀ v ∈ Members.arrange environment, told? (step :: path) v = none :=
      fun v hv => told?_eq_none (h v (Members.mem_arrange hv))
    rw [Environment.at?_layer ho, filterMap_assignments, List.filterMap_eq_nil_iff.mpr hs]
    rfl
  | @set name text hm hn h =>
    have ho : ∀ t ∈ assignments environment, t.Open (step :: path) := by
      intro t ht
      obtain ⟨v, hv, path', hn', rfl⟩ := exists_of_mem_assignments ht
      refine open_nest ?_
      by_cases hp : path' <+: step :: path
      · obtain rfl := h v hv path' hn' (.inl hp)
        exact .inr (hn'.unique hn)
      · exact .inl hp
    obtain ⟨text', hm'⟩ := Members.exists_mem_arrange hm
    obtain rfl : text' = text :=
      (Prod.mk.inj (h _ (Members.mem_arrange hm') _ hn (.inl (List.prefix_refl _)))).2
    have hs : ∀ v ∈ Members.arrange environment, v ≠ (name, text') →
        told? (step :: path) v = none := by
      intro v hv hne
      refine told?_eq_none fun path' hn' => not_or.mp fun hp => hne ?_
      exact h v (Members.mem_arrange hv) path' hn' hp
    -- the names of the variables differ, so that no other one is this one again
    obtain ⟨before, after, he⟩ := List.append_of_mem hm'
    have hd : (before ++ (name, text') :: after).Nodup :=
      he ▸ (Members.sorted_arrange environment).nodup.of_map Prod.fst
    have hnot : (name, text') ∉ before ++ after := (List.nodup_middle.mp hd).notMem
    have hb : ∀ v ∈ before ++ after, told? (step :: path) v = none := by
      intro v hv
      refine hs v ?_ fun hv' => hnot (hv' ▸ hv)
      rw [he]
      simpa using (List.mem_append.mp hv).imp_right .inr
    rw [List.forall_mem_append] at hb
    rw [Environment.at?_layer ho, filterMap_assignments, he, List.filterMap_append,
      List.filterMap_cons_some (told?_eq_some hn), List.filterMap_eq_nil_iff.mpr hb.1,
      List.filterMap_eq_nil_iff.mpr hb.2]
    rfl

end Told

end QualityGate.Environment
