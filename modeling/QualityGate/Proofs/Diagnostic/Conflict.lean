import Mathlib.Data.List.Sort
import Mathlib.Data.String.Basic
import QualityGate.Diagnostic.Policy

namespace QualityGate

theorem mem_insertName (name : String) (names : List String) (n : String) :
    n ∈ insertName name names ↔ n = name ∨ n ∈ names := by
  induction names with
  | nil => simp [insertName]
  | cons m ms ih =>
    rw [insertName]
    split_ifs with hlt he
    · exact List.mem_cons
    · simp [he]
    · rw [List.mem_cons, ih, List.mem_cons]
      exact or_left_comm

theorem pairwise_insertName (name : String) {names : List String}
    (h : names.Pairwise (· < ·)) : (insertName name names).Pairwise (· < ·) := by
  induction names with
  | nil => exact List.pairwise_singleton _ _
  | cons m ms ih =>
    obtain ⟨hm, hs⟩ := List.pairwise_cons.mp h
    rw [insertName]
    split_ifs with hlt he
    · apply List.pairwise_cons.mpr
      refine ⟨fun n hn => ?_, h⟩
      rcases List.mem_cons.mp hn with rfl | hn
      · exact hlt
      · exact hlt.trans (hm n hn)
    · exact h
    · have hgt : m < name := lt_of_le_of_ne (not_lt.mp hlt) (Ne.symm he)
      apply List.pairwise_cons.mpr
      refine ⟨fun n hn => ?_, ih hs⟩
      rcases (mem_insertName name ms n).mp hn with rfl | hn
      · exact hgt
      · exact hm n hn

theorem mem_sortNames (names : List String) (n : String) : n ∈ sortNames names ↔ n ∈ names := by
  induction names with
  | nil => rfl
  | cons m ms ih =>
    have hc : n ∈ sortNames (m :: ms) ↔ n = m ∨ n ∈ sortNames ms := mem_insertName ..
    rw [hc, ih, List.mem_cons]

theorem pairwise_sortNames (names : List String) : (sortNames names).Pairwise (· < ·) := by
  induction names with
  | nil => exact List.Pairwise.nil
  | cons m ms ih => exact pairwise_insertName m ih

namespace PolicySettings

def Contested (p : PolicySettings) (rule : String) : Prop :=
  rule ∈ p.lintFixableRules ∧ rule ∈ p.lintUnfixableRules

/-- The first of the rules that are listed as fixable to be listed as unfixable too. -/
def FirstContested (p : PolicySettings) (rule : String) : Prop :=
  ∃ before after, p.lintFixableRules = before ++ rule :: after ∧ rule ∈ p.lintUnfixableRules ∧
    ∀ r ∈ before, r ∉ p.lintUnfixableRules

/-- The same rules are listed, in any order and any number of times. -/
structure Alike (p q : PolicySettings) : Prop where
  byDefault : p.lintDefaultFixable = q.lintDefaultFixable
  fixable : ∀ r, r ∈ p.lintFixableRules ↔ r ∈ q.lintFixableRules
  unfixable : ∀ r, r ∈ p.lintUnfixableRules ↔ r ∈ q.lintUnfixableRules

variable {p q : PolicySettings}

theorem mem_inBoth (p : PolicySettings) (rule : String) : rule ∈ p.inBoth ↔ p.Contested rule := by
  simp [inBoth, Contested]

theorem FirstContested.contested {rule : String} (h : p.FirstContested rule) :
    p.Contested rule := by
  obtain ⟨before, after, hl, hu, -⟩ := h
  exact ⟨by simp [hl], hu⟩

theorem head?_inBoth {rule : String} (h : p.inBoth.head? = some rule) :
    p.FirstContested rule := by
  rw [inBoth, List.head?_filter, List.find?_eq_some_iff_append] at h
  obtain ⟨hu, before, after, hl, hb⟩ := h
  exact ⟨before, after, hl, by simpa using hu, fun r hr => by simpa using hb r hr⟩

theorem Alike.contested_iff (h : p.Alike q) (rule : String) :
    p.Contested rule ↔ q.Contested rule :=
  and_congr (h.fixable rule) (h.unfixable rule)

end PolicySettings

namespace Policy

open PolicySettings

/-- The policy has the listed rules as they are listed, and the others as the default says. -/
structure Follows (policy : Policy) (p : PolicySettings) : Prop where
  fixable : ∀ r ∈ p.lintFixableRules, policy.ruleFixable r = true
  unfixable : ∀ r ∈ p.lintUnfixableRules, policy.ruleFixable r = false
  unlisted : ∀ r, r ∉ p.lintFixableRules → r ∉ p.lintUnfixableRules →
    policy.ruleFixable r = p.lintDefaultFixable

/-- What comes of settings: a policy that follows them or, if they contest rules, a message that
lists these. -/
inductive Settled (p : PolicySettings) : Except GateError Policy → Prop
  | refused {rule : String} {names : List String} (hc : p.Contested rule)
      (hs : names.Pairwise (· < ·)) (hm : ∀ r, r ∈ names ↔ p.Contested r)
      (he : (GateError.invalidPolicy names).message =
        "Invalid classification policy: rules listed as both fixable and unfixable: " ++
          ", ".intercalate names) :
      Settled p (.error (.invalidPolicy names))
  | accepted {policy : Policy} (hc : ∀ r, ¬ p.Contested r) (hf : policy.Follows p) :
      Settled p (.ok policy)

/-- The same message, or policies that say the same of every rule. -/
inductive Agree : Except GateError Policy → Except GateError Policy → Prop
  | refused {e e' : GateError} (h : e.message = e'.message) : Agree (.error e) (.error e')
  | accepted {policy policy' : Policy} (h : ∀ r, policy.ruleFixable r = policy'.ruleFixable r) :
      Agree (.ok policy) (.ok policy')

variable {p q : PolicySettings}

theorem ofSettings_of_contested {rule : String} (h : p.Contested rule) :
    ofSettings p = .error (.invalidPolicy (sortNames p.inBoth)) :=
  dif_neg fun hd => hd rule h.1 h.2

theorem ofSettings_of_not_contested (h : ∀ r, ¬ p.Contested r) :
    ofSettings p = .ok ⟨p.lintDefaultFixable, p.lintFixableRules, p.lintUnfixableRules,
      fun r hf hu => h r ⟨hf, hu⟩⟩ :=
  dif_pos fun r hf hu => h r ⟨hf, hu⟩

theorem ruleFixable_of_mem_unfixable {policy : Policy} {r : String} (h : r ∈ policy.unfixable) :
    policy.ruleFixable r = false := by
  simp [ruleFixable, h]

theorem ruleFixable_of_mem_fixable {policy : Policy} {r : String} (h : r ∈ policy.fixable) :
    policy.ruleFixable r = true := by
  simp [ruleFixable, h, policy.disjoint r h]

theorem ruleFixable_of_not_mem {policy : Policy} {r : String} (hf : r ∉ policy.fixable)
    (hu : r ∉ policy.unfixable) : policy.ruleFixable r = policy.byDefault := by
  simp [ruleFixable, hf, hu]

theorem settled_ofSettings (p : PolicySettings) : Settled p (ofSettings p) := by
  by_cases hc : ∃ rule, p.Contested rule
  · obtain ⟨rule, hc⟩ := hc
    have hm : ∀ r, r ∈ sortNames p.inBoth ↔ p.Contested r := by
      intro r
      rw [mem_sortNames, mem_inBoth]
    rw [ofSettings_of_contested hc]
    exact .refused hc (pairwise_sortNames p.inBoth) hm rfl
  · have hn : ∀ r, ¬ p.Contested r := not_exists.mp hc
    rw [ofSettings_of_not_contested hn]
    apply Settled.accepted hn
    exact ⟨fun r hf => ruleFixable_of_mem_fixable hf,
      fun r hu => ruleFixable_of_mem_unfixable hu, fun r hf hu => ruleFixable_of_not_mem hf hu⟩

example : ofSettings ⟨true, ["c", "a", "b", "a"], ["a", "d", "c"]⟩ =
    .error (.invalidPolicy ["a", "c"]) := by rfl

theorem Follows.congr {policy policy' : Policy} (h : policy.Follows p) (h' : policy'.Follows q)
    (hpq : p.Alike q) (r : String) : policy.ruleFixable r = policy'.ruleFixable r := by
  by_cases hu : r ∈ p.lintUnfixableRules
  · rw [h.unfixable r hu, h'.unfixable r ((hpq.unfixable r).mp hu)]
  · by_cases hf : r ∈ p.lintFixableRules
    · rw [h.fixable r hf, h'.fixable r ((hpq.fixable r).mp hf)]
    · have hf' : r ∉ q.lintFixableRules := fun hr => hf ((hpq.fixable r).mpr hr)
      have hu' : r ∉ q.lintUnfixableRules := fun hr => hu ((hpq.unfixable r).mpr hr)
      rw [h.unlisted r hf hu, h'.unlisted r hf' hu', hpq.byDefault]

theorem Settled.agree {x y : Except GateError Policy} (hx : Settled p x) (hy : Settled q y)
    (hpq : p.Alike q) : Agree x y := by
  cases hx with
  | @refused rule names hc hs hm he =>
    cases hy with
    | @refused rule' names' hc' hs' hm' he' =>
      have hn : names = names' := by
        apply List.Subset.antisymm_of_pairwise hs hs'
        · exact fun r hr => (hm' r).mpr ((hpq.contested_iff r).mp ((hm r).mp hr))
        · exact fun r hr => (hm r).mpr ((hpq.contested_iff r).mpr ((hm' r).mp hr))
      exact .refused (by rw [he, he', hn])
    | accepted hc' _ => exact absurd ((hpq.contested_iff rule).mp hc) (hc' rule)
  | accepted hc hf =>
    cases hy with
    | refused hc' _ _ _ => exact absurd ((hpq.contested_iff _).mpr hc') (hc _)
    | accepted hc' hf' => exact .accepted (hf.congr hf' hpq)

end Policy
end QualityGate
