import QualityGate.Proofs.Settings.Tree
import QualityGate.Proofs.Wire.Record

namespace QualityGate.Wire

open Setting

variable {α γ : Type} {f : Form α} {path : List String} {g : Form γ} {proj : α → γ}
  {s v : Setting} {a : α}

theorem Form.Path.regular (hp : f.Path path g proj) (hf : f.Regular) : g.Regular := by
  induction hp with
  | nil => exact hf
  | cons hfield _ ih => exact ih (hfield.regular hf.1)

theorem Form.Path.decode (hp : f.Path path g proj) (hf : f.Regular) (hn : s.Neat)
    (ho : s.Open path) (hd : f.decode s = .ok a) (hv : s.at? path = some v) :
    g.decode v = .ok (proj a) := by
  induction hp generalizing s v with
  | nil =>
    obtain rfl := Option.some.inj hv
    exact hd
  | cons hfield _ ih =>
    cases hn with
    | leaf | list => cases ho.isGroup
    | group hs hm =>
      have hk := Fields.nodup_keys _ hf.1
      obtain ⟨b, ht, rfl⟩ := (Form.decode_record_iff hk rfl hs.nodup a).mp hd
      obtain ⟨x, hx, hv⟩ := Option.bind_eq_some_iff.mp hv
      rw [ih (hfield.regular hf.1) (hm _ (Members.mem_of_lookup hx)) (ho.member hx)
        (hfield.takes ht hx) hv]
      simp only [Function.comp_apply, hf.2.2 b]

theorem Form.not_decode_group (hf : f.Regular) (hr : f.isRecord = false)
    (hd : f.decode v = .ok a) : v.isGroup = false := by
  cases v with
  | leaf | list => rfl
  | group o members => exact absurd hd (not_decode_map f hf hr rfl a)

/-- At the path of every part stands what it is read from, and for a record that is a group. -/
def Form.Tells (f : Form α) (s : Setting) (a : α) : Prop :=
  ∀ {γ : Type} {path : List String} {g : Form γ} {proj : α → γ}, f.Path path g proj →
    ∃ v, s.at? path = some v ∧
      if g.isRecord then v.isGroup = true else g.decode v = .ok (proj a)

mutual

theorem Form.Tells.decode : {α : Type} → {f : Form α} → {s : Setting} → {a : α} →
    f.Tells s a → f.Regular → s.Neat → f.decode s = .ok a
  | _, .text, _, _, h, _, _ | _, .flag, _, _, h, _, _ | _, .word64, _, _, h, _, _
  | _, .int32, _, _, h, _, _ | _, .list _, _, _, h, _, _ | _, .optional _, _, _, h, _, _ => by
    obtain ⟨v, hv, hd⟩ := h .nil
    obtain rfl := Option.some.inj hv
    exact hd
  | _, .record _ fields ofParts parts hp, s, a, h, hf, hn => by
    obtain ⟨v, hv, hg⟩ := h .nil
    obtain rfl := Option.some.inj hv
    cases hn with
    | leaf | list => cases hg
    | group hs hm =>
      have hk := fields.nodup_keys hf.1
      refine (Form.decode_record_iff hk rfl hs.nodup a).mpr ⟨parts a, ?_, (hp a).symm⟩
      refine takes_of_tells fields hf.1 hm (parts a) fun hfield => ?_
      obtain ⟨x, hx, -⟩ := h (.cons hfield .nil)
      obtain ⟨x, hx, -⟩ := Option.bind_eq_some_iff.mp hx
      refine ⟨x, hx, fun hp => ?_⟩
      obtain ⟨y, hy, hd⟩ := h (.cons hfield hp)
      obtain ⟨x', hx', hy⟩ := Option.bind_eq_some_iff.mp hy
      obtain rfl := Option.some.inj (hx.symm.trans hx')
      exact ⟨y, hy, hd⟩

theorem takes_of_tells : {β σ : Type} → (fields : Fields β σ) → fields.Regular →
    {members : List (String × Setting)} → (∀ m ∈ members, Setting.Neat m.2) → (b : β) →
    (∀ {γ : Type} {key : String} {g : Form γ} {proj : β → γ}, fields.Has key g proj →
      ∃ x, members.lookup key = some x ∧ g.Tells x (proj b)) →
    fields.Takes members b
  | _, _, .nil, _, _, _, _, _ => trivial
  | _, _, .cons key form _ rest, hf, _, hn, (a, b), h => by
    obtain ⟨-, hform, -, hrest⟩ := hf
    obtain ⟨x, hx, ht⟩ := h .here
    refine ⟨?_, takes_of_tells rest hrest hn b fun hfield => h (.there hfield)⟩
    rw [hx]
    exact Form.Tells.decode ht hform (hn _ (Members.mem_of_lookup hx))

end

variable {o : Origin}

theorem lookup_ofMembers (members : List (String × Json)) (name : String) :
    (ofMembers o members).lookup name = (members.lookup name).map (Setting.ofJson o) := by
  induction members with
  | nil => rfl
  | cons m members ih =>
    rw [ofMembers, Members.lookup_cons, Members.lookup_cons, ih]
    split_ifs <;> rfl

theorem Form.Path.at?_encode (hp : f.Path path g proj) (hf : f.Regular) (a : α) :
    (Setting.ofJson o (f.encode a)).at? path = some (Setting.ofJson o (g.encode (proj a))) := by
  induction hp with
  | nil => rfl
  | cons hfield _ ih =>
    rw [Form.encode, Json.ofMembers, Setting.ofJson, at?, member?, lookup_ofMembers,
      Members.lookup_arrange, hfield.lookup_encode hf.1]
    · exact ih (hfield.regular hf.1) _
    · rw [Fields.keys_encode _ hf.1]
      exact Fields.nodup_keys _ hf.1

end QualityGate.Wire
