import QualityGate.Proofs.Members
import QualityGate.Wire.Decode

namespace QualityGate.Wire

variable {ν : Type} [Source ν]

namespace Fields

def Takes (members : List (String × ν)) : {β σ : Type} → Fields β σ → β → Prop
  | _, _, nil, _ => True
  | _, _, cons key form presence rest, (a, b) =>
    (match members.lookup key with
      | some v => form.decode v = .ok a
      | .none => presence.absent = some a) ∧ Takes members rest b

/-- The field with the given key and form, and how its value is had from those of all fields. -/
inductive Has : {β σ γ : Type} → Fields β σ → String → Form γ → (β → γ) → Prop
  | here {α β σ : Type} {key : String} {form : Form α} {presence : Presence α}
      {rest : Fields β σ} : Has (cons key form presence rest) key form Prod.fst
  | there {α β σ γ : Type} {key : String} {form : Form α} {presence : Presence α}
      {rest : Fields β σ} {k : String} {g : Form γ} {proj : β → γ} (h : Has rest k g proj) :
      Has (cons key form presence rest) k g (proj ∘ Prod.snd)

end Fields

/-- The path of a part of a record, through the fields of records, with the form of the part and
how it is had from the record. -/
inductive Form.Path : {α γ : Type} → Form α → List String → Form γ → (α → γ) → Prop
  | nil {α : Type} {f : Form α} : Path f [] f id
  | cons {α β σ γ δ : Type} {name : String} {fields : Fields β σ} {ofParts : β → α}
      {parts : α → β} {h : ∀ a, ofParts (parts a) = a} {key : String} {g : Form γ} {proj : β → γ}
      {path : List String} {f : Form δ} {proj' : γ → δ} (hf : fields.Has key g proj)
      (hp : Path g path f proj') :
      Path (.record name fields ofParts parts h) (key :: path) f (proj' ∘ proj ∘ parts)

def Form.isRecord : {α : Type} → Form α → Bool
  | _, .record _ _ _ _ _ => true
  | _, _ => false

mutual

/-- Only records are read from maps. All of them have fields, which have different keys and are
always written, and they are nothing more than their parts. -/
def Form.Regular : {α : Type} → Form α → Prop
  | _, .oneOf _ _ _ => False
  | _, .optional form => form.Regular ∧ form.isRecord = false
  | _, .record _ fields ofParts parts _ =>
    fields.Regular ∧ fields.keys ≠ [] ∧ ∀ b, parts (ofParts b) = b
  | _, .text | _, .flag | _, .word64 | _, .int32 | _, .list _ => True

def Fields.Regular : {β σ : Type} → Fields β σ → Prop
  | _, _, .nil => True
  | _, _, .cons key form presence rest =>
    key ∉ rest.keys ∧ form.Regular ∧ (∀ a, presence.omits a = false) ∧ rest.Regular

end

theorem Form.not_decode_map : {α : Type} → (f : Form α) → f.Regular → f.isRecord = false →
    {v : ν} → {members : List (String × ν)} → Source.view v = .map members → (a : α) →
    f.decode v ≠ .ok a
  | _, .text, _, _, _, _, hv, _ | _, .flag, _, _, _, _, hv, _ | _, .word64, _, _, _, _, hv, _
  | _, .int32, _, _, _, _, hv, _ | _, .list _, _, _, _, _, hv, _ => by
    simp [decode, hv, invalidType]
  | _, .optional form, hf, _, v, _, hv, a => by
    rw [decode, hv]
    intro h
    cases hd : form.decode v with
    | error fault => simp [hd, Except.map] at h
    | ok a => exact not_decode_map form hf.1 hf.2 hv a hd

section Takes

variable {members : List (String × ν)} {α β σ : Type}

theorem foldlM_decodeMember_cons {key : String} {form : Form α} {presence : Presence α}
    {rest : Fields β σ} (hn : (members.map Prod.fst).Nodup) (x x' : Option α) (y y' : σ) :
    members.foldlM (fun values m =>
        Form.decodeMember (.cons key form presence rest) m.1 m.2 values) (x, y) = .ok (x', y') ↔
      (match members.lookup key with
        | some v => ∃ a, form.decode v = .ok a ∧ x' = some a
        | none => x' = x) ∧
      (members.filter fun m => m.1 ≠ key).foldlM
        (fun values m => Form.decodeMember rest m.1 m.2 values) y = .ok y' := by
  induction members generalizing x y with
  | nil => simp [pure, Except.pure, eq_comm]
  | cons m members ih =>
    obtain ⟨k, v⟩ := m
    obtain ⟨hk, hr⟩ := List.nodup_cons.mp hn
    rw [List.foldlM_cons, Form.decodeMember, Members.lookup_cons]
    by_cases he : key = k
    · subst he
      have hl : members.lookup key = none := Members.lookup_eq_none_of_not_mem hk
      rw [if_pos rfl, if_pos rfl]
      cases hd : form.decode v with
      | error fault => simp [within, hd, Except.map, bind, Except.bind]
      | ok a =>
        have hf : (((key, v) :: members).filter fun m => m.1 ≠ key) =
            members.filter fun m => m.1 ≠ key := List.filter_cons_of_neg (by simp)
        have hi := ih hr (some a) y
        rw [hl] at hi
        rw [hf]
        refine hi.trans (and_congr_left fun _ => ?_)
        simp [hd]
    · have hf : (((k, v) :: members).filter fun m => m.1 ≠ key) =
          (k, v) :: members.filter fun m => m.1 ≠ key :=
        List.filter_cons_of_pos (by simpa using Ne.symm he)
      rw [if_neg he, if_neg he, hf, List.foldlM_cons]
      cases hd : Form.decodeMember rest k v y with
      | error fault => simp [Except.map, bind, Except.bind]
      | ok y₁ => exact ih hr x y₁

theorem foldlM_decodeMember_nil (members : List (String × ν)) (y : Unit) :
    members.foldlM (fun values m => Form.decodeMember .nil m.1 m.2 values) y = .ok () := by
  induction members with
  | nil => rfl
  | cons m members ih => exact ih

omit [Source ν] in
theorem lookup_filter_ne {key k : String} (members : List (String × ν)) (h : k ≠ key) :
    (members.filter fun m => m.1 ≠ key).lookup k = members.lookup k := by
  induction members with
  | nil => rfl
  | cons m members ih =>
    by_cases hm : m.1 = key
    · have hk : k ≠ m.1 := fun hk => h (hk.trans hm)
      rw [List.filter_cons_of_neg (by simpa using hm), ih, Members.lookup_cons, if_neg hk]
    · rw [List.filter_cons_of_pos (by simpa using hm), Members.lookup_cons, Members.lookup_cons,
        ih]

theorem Fields.takes_filter_ne {key : String} :
    {β σ : Type} → (fields : Fields β σ) → key ∉ fields.keys → (b : β) →
      (Takes (members.filter fun m => m.1 ≠ key) fields b ↔ Takes members fields b)
  | _, _, .nil, _, _ => Iff.rfl
  | _, _, .cons k form presence rest, hk, (a, b) => by
    have hk' : key ≠ k ∧ key ∉ rest.keys := by simpa [keys] using hk
    rw [Takes, Takes, takes_filter_ne rest hk'.2 b, lookup_filter_ne members (Ne.symm hk'.1)]

omit [Source ν] in
theorem Fields.complete_cons {key : String} {form : Form α} {presence : Presence α}
    {rest : Fields β σ} (x : Option α) (y : σ) (a : α) (b : β) :
    (cons key form presence rest).complete (x, y) = .ok (a, b) ↔
      (x <|> presence.absent) = some a ∧ rest.complete y = .ok b := by
  rw [complete]
  cases x <|> presence.absent with
  | none => simp
  | some a' => cases rest.complete y <;> simp [Except.map]

theorem Fields.takes_iff : {β σ : Type} → (fields : Fields β σ) → fields.keys.Nodup →
    (members : List (String × ν)) → (members.map Prod.fst).Nodup → (b : β) →
    ((∃ values, members.foldlM (fun values m => Form.decodeMember fields m.1 m.2 values)
        fields.none = .ok values ∧ fields.complete values = .ok b) ↔ Takes members fields b)
  | _, _, .nil, _, members, _, () => by
    refine iff_of_true ⟨(), foldlM_decodeMember_nil members (), rfl⟩ trivial
  | _, _, .cons key form presence rest, hf, members, hn, (a, b) => by
    obtain ⟨hk, hr⟩ := List.nodup_cons.mp hf
    have hn' : ((members.filter fun m => m.1 ≠ key).map Prod.fst).Nodup :=
      hn.sublist (List.filter_sublist.map Prod.fst)
    have hfold := @foldlM_decodeMember_cons _ _ members _ _ _ key form presence rest hn
    -- the first field takes the value with its key, and the rest read the other members
    rw [Takes, ← takes_filter_ne rest hk b, ← takes_iff rest hr _ hn' b]
    constructor
    · rintro ⟨⟨x, y⟩, hv, hc⟩
      obtain ⟨hx, hy⟩ := (hfold .none x rest.none y).mp hv
      obtain ⟨ha, hb⟩ := (complete_cons x y a b).mp hc
      refine ⟨?_, y, hy, hb⟩
      cases hl : members.lookup key with
      | none =>
        rw [hl] at hx
        rw [hx] at ha
        exact ha
      | some v =>
        rw [hl] at hx
        obtain ⟨a', hd, rfl⟩ := hx
        obtain rfl : a' = a := Option.some.inj ha
        exact hd
    · rintro ⟨ha, y, hy, hb⟩
      cases hl : members.lookup key with
      | none =>
        rw [hl] at ha
        refine ⟨(.none, y), (hfold .none .none rest.none y).mpr ⟨?_, hy⟩, ?_⟩
        · rw [hl]
        · exact (complete_cons .none y a b).mpr ⟨ha, hb⟩
      | some v =>
        rw [hl] at ha
        refine ⟨(some a, y), (hfold .none (some a) rest.none y).mpr ⟨?_, hy⟩, ?_⟩
        · rw [hl]
          exact ⟨a, ha, rfl⟩
        · exact (complete_cons (some a) y a b).mpr ⟨rfl, hb⟩

/-- A record whose fields have different keys is read from a map exactly if they take their values
from it. -/
theorem Form.decode_record_iff {name : String} {fields : Fields β σ} {ofParts : β → α}
    {parts : α → β} {h : ∀ a, ofParts (parts a) = a} (hf : fields.keys.Nodup) {v : ν}
    (hv : Source.view v = .map members) (hn : (members.map Prod.fst).Nodup) (a : α) :
    (Form.record name fields ofParts parts h).decode v = .ok a ↔
      ∃ b, fields.Takes members b ∧ a = ofParts b := by
  simp only [← fields.takes_iff hf members hn]
  rw [decode, hv]
  cases hm : members.foldlM (fun values m => Form.decodeMember fields m.1 m.2 values)
      fields.none with
  | error fault => simp [hm, bind, Except.bind]
  | ok values =>
    cases hc : fields.complete values with
    | error key => simp [hm, hc, bind, Except.bind]
    | ok b => simp [hm, hc, bind, Except.bind, eq_comm]

end Takes

namespace Fields

variable {α β γ σ : Type} {fields : Fields β σ} {key : String} {g : Form γ} {proj : β → γ} {b : β}

theorem Has.takes {members : List (String × ν)} {v : ν} (h : fields.Has key g proj)
    (ht : fields.Takes members b) (hv : members.lookup key = some v) :
    g.decode v = .ok (proj b) := by
  induction h with
  | here =>
    obtain ⟨ha, -⟩ := ht
    rw [hv] at ha
    exact ha
  | there h ih => exact ih ht.2 hv

theorem Has.mem_keys (h : fields.Has key g proj) : key ∈ fields.keys := by
  induction h with
  | here => exact List.mem_cons_self
  | there h ih => exact List.mem_cons_of_mem _ ih

theorem exists_has : {β σ : Type} → {fields : Fields β σ} → fields.keys ≠ [] →
    ∃ (γ : Type) (key : String) (g : Form γ) (proj : β → γ), fields.Has key g proj
  | _, _, .nil, h => absurd rfl h
  | _, _, .cons key form _ _, _ => ⟨_, key, form, Prod.fst, .here⟩

theorem Has.regular (h : fields.Has key g proj) (hf : fields.Regular) : g.Regular := by
  induction h with
  | here => exact hf.2.1
  | there h ih => exact ih hf.2.2.2

theorem nodup_keys : {β σ : Type} → (fields : Fields β σ) → fields.Regular → fields.keys.Nodup
  | _, _, .nil, _ => List.nodup_nil
  | _, _, .cons _ _ _ rest, hf => by
    obtain ⟨hk, -, -, hr⟩ := hf
    exact List.nodup_cons.mpr ⟨hk, nodup_keys rest hr⟩

theorem keys_encode : {β σ : Type} → (fields : Fields β σ) → fields.Regular → (b : β) →
    (Form.encodeFields fields b).map Prod.fst = fields.keys
  | _, _, .nil, _, _ => rfl
  | _, _, .cons _ _ _ rest, hf, (a, b) => by
    obtain ⟨-, -, hw, hr⟩ := hf
    rw [Form.encodeFields, hw a, if_neg Bool.false_ne_true, List.map_cons, keys_encode rest hr b,
      keys]

theorem Has.lookup_encode (h : fields.Has key g proj) (hf : fields.Regular) :
    (Form.encodeFields fields b).lookup key = some (g.encode (proj b)) := by
  induction h with
  | here =>
    obtain ⟨-, -, hw, -⟩ := hf
    rw [Form.encodeFields, hw, if_neg Bool.false_ne_true, Members.lookup_cons, if_pos rfl]
  | @there _ _ _ _ first _ _ _ k _ _ h ih =>
    obtain ⟨hk, -, hw, hr⟩ := hf
    have hne : k ≠ first := by
      rintro rfl
      exact hk h.mem_keys
    rw [Form.encodeFields, hw, if_neg Bool.false_ne_true, Members.lookup_cons, if_neg hne, ih hr]
    rfl

end Fields

end QualityGate.Wire
