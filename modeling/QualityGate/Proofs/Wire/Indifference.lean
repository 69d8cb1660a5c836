import Mathlib.Logic.Relation
import QualityGate.Proofs.Wire.Meaning
import QualityGate.Proofs.Wire.RoundTrip

namespace QualityGate.Json

/-- The second document is the first one with the members of some object in another order. -/
inductive Reordered : Document → Document → Prop
  | object {ms ms' : List (List Char × Document)} (h : ms.Perm ms') :
      Reordered (.object ms) (.object ms')
  | member {before after : List (List Char × Document)} {name : List Char} {d d' : Document}
      (h : Reordered d d') : Reordered (.object (before ++ (name, d) :: after))
        (.object (before ++ (name, d') :: after))
  | item {before after : List Document} {d d' : Document} (h : Reordered d d') :
      Reordered (.array (before ++ d :: after)) (.array (before ++ d' :: after))

theorem Reordered.ne_null {d d' : Document} (h : Reordered d d') : d ≠ .null ∧ d' ≠ .null := by
  cases h <;> exact ⟨nofun, nofun⟩

end QualityGate.Json

namespace QualityGate.Wire

open Json (Document Reordered bodyText?)

/-- The form of the field at the given place. -/
inductive Fields.At : {β σ γ : Type} → Fields β σ → Nat → Form γ → Prop
  | here {α β σ : Type} {key : String} {form : Form α} {presence : Presence α}
      {rest : Fields β σ} : At (cons key form presence rest) 0 form
  | there {α β σ γ : Type} {key : String} {form : Form α} {presence : Presence α}
      {rest : Fields β σ} {n : Nat} {g : Form γ} (h : At rest n g) :
      At (cons key form presence rest) (n + 1) g

/-- The second document has one more member than the first: any value under a name for which the
record that is read there has no field. -/
inductive Form.Extends : {α : Type} → Form α → Document → Document → Prop
  | member {α β σ : Type} {record : String} {fields : Fields β σ} {ofParts : β → α} {parts : α → β}
      {hp : ∀ a, ofParts (parts a) = a} {before after : List (List Char × Document)}
      {name : List Char} {key : String} (d : Document) (hn : bodyText? name = some key)
      (hk : key ∉ fields.keys) :
      Extends (.record record fields ofParts parts hp) (.object (before ++ after))
        (.object (before ++ (name, d) :: after))
  | field {α β γ σ : Type} {record : String} {fields : Fields β σ} {ofParts : β → α}
      {parts : α → β} {hp : ∀ a, ofParts (parts a) = a}
      {before after : List (List Char × Document)} {name : List Char} {key : String} {g : Form γ}
      {proj : β → γ} {d d' : Document} (hn : bodyText? name = some key)
      (hg : fields.Has key g proj) (h : Extends g d d') :
      Extends (.record record fields ofParts parts hp) (.object (before ++ (name, d) :: after))
        (.object (before ++ (name, d') :: after))
  | position {α β γ σ : Type} {record : String} {fields : Fields β σ} {ofParts : β → α}
      {parts : α → β} {hp : ∀ a, ofParts (parts a) = a} {before after : List Document}
      {g : Form γ} {d d' : Document} (hg : fields.At before.length g) (h : Extends g d d') :
      Extends (.record record fields ofParts parts hp) (.array (before ++ d :: after))
        (.array (before ++ d' :: after))
  | item {α : Type} {form : Form α} {before after : List Document} {d d' : Document}
      (h : Extends form d d') :
      Extends (.list form) (.array (before ++ d :: after)) (.array (before ++ d' :: after))
  | optional {α : Type} {form : Form α} {d d' : Document} (h : Extends form d d') :
      Extends (.optional form) d d'

theorem Form.Extends.ne_null {α : Type} {f : Form α} {d d' : Document} (h : f.Extends d d') :
    d ≠ .null ∧ d' ≠ .null := by
  induction h with
  | optional h ih => exact ih
  | _ => exact ⟨nofun, nofun⟩

variable {α β γ σ : Type}

namespace Fields

theorem give?_of_not_mem {name : String} {d : Document} : {β σ : Type} → {fields : Fields β σ} →
    name ∉ fields.keys → (values : σ) → fields.give? name d values = some values
  | _, _, .nil, _, _ => rfl
  | _, _, .cons key _ _ rest, h, (value, values) => by
    have hk : key ≠ name := fun he => h (he ▸ List.mem_cons_self)
    rw [give?, if_neg hk, give?_of_not_mem fun hr => h (List.mem_cons_of_mem key hr)]
    rfl

theorem Has.faithful {fields : Fields β σ} {key : String} {g : Form γ} {proj : β → γ}
    (h : fields.Has key g proj) (hf : fields.Faithful) : g.Faithful := by
  induction h with
  | here => exact hf.2.1
  | there h ih => exact ih hf.2.2

theorem At.faithful {fields : Fields β σ} {n : Nat} {g : Form γ} (h : fields.At n g)
    (hf : fields.Faithful) : g.Faithful := by
  induction h with
  | here => exact hf.2.1
  | there h ih => exact ih hf.2.2

theorem Has.give?_congr {fields : Fields β σ} {key : String} {g : Form γ} {proj : β → γ}
    {d d' : Document} (h : fields.Has key g proj) (hf : fields.Faithful)
    (hv : g.value? d = g.value? d') (values : σ) :
    fields.give? key d values = fields.give? key d' values := by
  induction h with
  | here => rw [give?, give?, if_pos rfl, if_pos rfl, hv]
  | @there _ _ _ _ first _ _ _ _ _ _ h ih =>
    have hk : first ≠ _ := fun he => hf.1 (he ▸ h.mem_keys)
    rw [give?, give?, if_neg hk, if_neg hk, ih hf.2.2 hv]

theorem At.positions?_congr {fields : Fields β σ} {before : List Document} {g : Form γ}
    {d d' : Document} (h : fields.At before.length g) (hv : g.value? d = g.value? d')
    (after : List Document) :
    fields.positions? (before ++ d :: after) = fields.positions? (before ++ d' :: after) := by
  generalize hn : before.length = n at h
  induction h generalizing before with
  | here =>
    obtain rfl := List.length_eq_zero_iff.mp hn
    rw [List.nil_append, List.nil_append, positions?, positions?, hv]
  | there h ih =>
    obtain ⟨x, before, rfl⟩ := List.exists_cons_of_length_eq_add_one hn
    rw [List.cons_append, List.cons_append, positions?, positions?,
      ih hv (Nat.succ.inj hn)]

end Fields

theorem mapM_congr_at {f : Document → Option α} {d d' : Document} (h : f d = f d')
    (before after : List Document) :
    (before ++ d :: after).mapM f = (before ++ d' :: after).mapM f := by
  rw [List.mapM_append, List.mapM_append, List.mapM_cons, List.mapM_cons, h]

theorem members_congr_at {give? : String → Document → σ → Option σ} {name : List Char}
    {d d' : Document}
    (h : ∀ key, bodyText? name = some key → ∀ values, give? key d values = give? key d' values)
    (before after : List (List Char × Document)) (values : σ) :
    (before ++ (name, d) :: after).foldlM (memberStep give?) values =
      (before ++ (name, d') :: after).foldlM (memberStep give?) values := by
  have hs : ∀ values, memberStep give? values (name, d) = memberStep give? values (name, d') := by
    intro values
    rw [memberStep, memberStep]
    cases hn : bodyText? name with
    | none => rfl
    | some key => exact h key hn values
  rw [List.foldlM_append, List.foldlM_append]
  simp only [List.foldlM_cons, hs]

theorem members_append_of_not_mem {fields : Fields β σ} {name : List Char} {key : String}
    (hn : bodyText? name = some key) (hk : key ∉ fields.keys) (d : Document)
    (before after : List (List Char × Document)) (values : σ) :
    (before ++ (name, d) :: after).foldlM (memberStep fields.give?) values =
      (before ++ after).foldlM (memberStep fields.give?) values := by
  have hs : ∀ values, memberStep fields.give? values (name, d) = some values := by
    intro values
    rw [memberStep, hn]
    exact Fields.give?_of_not_mem hk values
  rw [List.foldlM_append, List.foldlM_append]
  simp only [List.foldlM_cons, hs]
  rfl

theorem Form.Extends.value? {f : Form α} {d d' : Document} (h : f.Extends d d')
    (hf : f.Faithful) : f.value? d' = f.value? d := by
  induction h with
  | member d hn hk =>
    rw [Form.value?, Form.value?, members_append_of_not_mem hn hk]
  | @field _ _ _ _ _ fields _ _ _ _ _ name key g _ d d' hn hg h ih =>
    have hv := ih (hg.faithful hf)
    have hs : ∀ k, bodyText? name = some k → ∀ values,
        fields.give? k d' values = fields.give? k d values := by
      intro k hk values
      obtain rfl := Option.some.inj (hn.symm.trans hk)
      exact hg.give?_congr hf hv values
    rw [Form.value?, Form.value?, members_congr_at hs]
  | position hg h ih =>
    rw [Form.value?, Form.value?, hg.positions?_congr (ih (hg.faithful hf))]
  | item h ih => exact mapM_congr_at (ih hf) _ _
  | optional h ih =>
    rw [value?_optional _ h.ne_null.1, value?_optional _ h.ne_null.2, ih hf.1]

theorem foldlM_perm {ι : Type} {step : σ → ι → Option σ}
    (hc : ∀ s a b, (step s a).bind (step · b) = (step s b).bind (step · a)) {l l' : List ι}
    (h : l.Perm l') (s : σ) : l.foldlM step s = l'.foldlM step s := by
  induction h generalizing s with
  | nil => rfl
  | cons a _ ih => simp only [List.foldlM_cons, ih]
  | swap a b l =>
    have hs := congrArg (·.bind fun s => l.foldlM step s) (hc s b a)
    rw [Option.bind_assoc, Option.bind_assoc] at hs
    simp only [List.foldlM_cons]
    exact hs
  | trans _ _ ih ih' => rw [ih, ih']

theorem Fields.give?_comm (k k' : String) (d d' : Document) : {β σ : Type} →
    (fields : Fields β σ) → (values : σ) →
    (fields.give? k d values).bind (fields.give? k' d' ·) =
      (fields.give? k' d' values).bind (fields.give? k d ·)
  | _, _, .nil, _ => rfl
  | _, _, .cons key form presence rest, (value, values) => by
    have hr := rest.give?_comm k k' d d' values
    by_cases hk : key = k
    · subst hk
      by_cases hk' : key = k'
      · subst hk'
        cases value with
        | none => cases hd : form.value? d <;> cases hd' : form.value? d' <;> simp [give?, hd, hd']
        | some a => simp [give?]
      · cases value with
        | none =>
          cases hd : form.value? d <;> cases hg : rest.give? k' d' values <;>
            simp [give?, hk', hd, hg]
        | some a => cases hg : rest.give? k' d' values <;> simp [give?, hk', hg]
    · by_cases hk' : key = k'
      · subst hk'
        cases value with
        | none =>
          cases hd : form.value? d' <;> cases hg : rest.give? k d values <;>
            simp [give?, hk, hd, hg]
        | some a => cases hg : rest.give? k d values <;> simp [give?, hk, hg]
      · have hl : ∀ v, (give? (cons key form presence rest) k d (value, v)) =
            (rest.give? k d v).map (value, ·) := fun v => by rw [give?, if_neg hk]
        have hr' : ∀ v, (give? (cons key form presence rest) k' d' (value, v)) =
            (rest.give? k' d' v).map (value, ·) := fun v => by rw [give?, if_neg hk']
        rw [hl, hr', Option.bind_map, Option.bind_map]
        simp only [Function.comp_def, hl, hr']
        have hm := congrArg (Option.map (value, ·)) hr
        rwa [Option.map_bind, Option.map_bind] at hm

theorem memberStep_comm {fields : Fields β σ} (values : σ) (m m' : List Char × Document) :
    (memberStep fields.give? values m).bind (memberStep fields.give? · m') =
      (memberStep fields.give? values m').bind (memberStep fields.give? · m) := by
  simp only [memberStep]
  cases bodyText? m.1 with
  | none => cases bodyText? m'.1 <;> simp
  | some k =>
    cases bodyText? m'.1 with
    | none => simp
    | some k' => exact fields.give?_comm k k' m.2 m'.2 values

mutual

theorem Form.value?_reordered : {α : Type} → (f : Form α) → {d d' : Document} → Reordered d d' →
    f.value? d = f.value? d'
  | _, .text, _, _, h | _, .flag, _, _, h => by cases h <;> rfl
  | _, .word64, _, _, h | _, .int32, _, _, h => by cases h <;> rfl
  | _, .oneOf _ _ _, _, _, h => by cases h <;> rfl
  | _, .optional form, _, _, h => by
    rw [form.value?_optional h.ne_null.1, form.value?_optional h.ne_null.2,
      form.value?_reordered h]
  | _, .list form, _, _, h => by
    cases h with
    | object | member => rfl
    | item h => exact mapM_congr_at (form.value?_reordered h) _ _
  | _, .record _ fields _ _ _, _, _, h => by
    cases h with
    | object h => rw [Form.value?, Form.value?, foldlM_perm memberStep_comm h]
    | member h =>
      rw [Form.value?, Form.value?,
        members_congr_at fun key _ values => fields.give?_reordered key h values]
    | item h => rw [Form.value?, Form.value?, fields.positions?_reordered _ h _]

theorem Fields.give?_reordered : {β σ : Type} → (fields : Fields β σ) → (key : String) →
    {d d' : Document} → Reordered d d' → (values : σ) →
    fields.give? key d values = fields.give? key d' values
  | _, _, .nil, _, _, _, _, _ => rfl
  | _, _, .cons _ form _ rest, key, _, _, h, (_, values) => by
    rw [Fields.give?, Fields.give?, form.value?_reordered h, rest.give?_reordered key h values]

theorem Fields.positions?_reordered : {β σ : Type} → (fields : Fields β σ) →
    (before : List Document) → {d d' : Document} → Reordered d d' → (after : List Document) →
    fields.positions? (before ++ d :: after) = fields.positions? (before ++ d' :: after)
  | _, _, .nil, before, _, _, _, _ => by simp [Fields.positions?]
  | _, _, .cons _ form _ rest, [], _, _, h, _ => by
    rw [List.nil_append, List.nil_append, Fields.positions?, Fields.positions?,
      form.value?_reordered h]
  | _, _, .cons _ _ _ rest, x :: before, _, _, h, after => by
    rw [List.cons_append, List.cons_append, Fields.positions?, Fields.positions?,
      rest.positions?_reordered before h after]

end

/-- The documents differ only in what the form is indifferent to, in any number of places. -/
def Form.Indifferent (f : Form α) : Document → Document → Prop :=
  Relation.EqvGen fun d d' => f.Extends d d' ∨ Reordered d d'

namespace Form.Indifferent

theorem of_extends {f : Form α} {d d' : Document} (h : f.Extends d d') : f.Indifferent d d' :=
  .rel d d' (.inl h)

theorem of_reordered {f : Form α} {d d' : Document} (h : Reordered d d') : f.Indifferent d d' :=
  .rel d d' (.inr h)

protected theorem trans {f : Form α} {d d' d'' : Document} (h : f.Indifferent d d')
    (h' : f.Indifferent d' d'') : f.Indifferent d d'' :=
  Relation.EqvGen.trans d d' d'' h h'

theorem lift {f : Form α} {g : Form γ} {place : Document → Document} {d d' : Document}
    (he : ∀ {d d'}, g.Extends d d' → f.Extends (place d) (place d'))
    (hr : ∀ {d d'}, Reordered d d' → Reordered (place d) (place d')) (h : g.Indifferent d d') :
    f.Indifferent (place d) (place d') := by
  induction h with
  | rel d d' h =>
    rcases h with h | h
    · exact of_extends (he h)
    · exact of_reordered (hr h)
  | refl d => exact .refl _
  | symm d d' _ ih => exact .symm _ _ ih
  | trans d d' d'' _ _ ih ih' => exact ih.trans ih'

theorem value? {f : Form α} {d d' : Document} (h : f.Indifferent d d') (hf : f.Faithful) :
    f.value? d = f.value? d' := by
  induction h with
  | rel d d' h =>
    rcases h with h | h
    · exact (h.value? hf).symm
    · exact f.value?_reordered h
  | refl d => rfl
  | symm d d' _ ih => exact ih.symm
  | trans d d' d'' _ _ ih ih' => exact ih.trans ih'

end Form.Indifferent
end QualityGate.Wire
