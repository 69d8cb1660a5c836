import QualityGate.Proofs.Json.Compact
import QualityGate.Proofs.Wire.Record

namespace QualityGate.Wire

def Form.isOptional : {α : Type} → Form α → Bool
  | _, .optional _ => true
  | _, _ => false

mutual

/-- Nothing and something are written differently, and the fields of a record have different
keys. -/
def Form.Faithful : {α : Type} → Form α → Prop
  | _, .optional form => form.Faithful ∧ form.isOptional = false
  | _, .list form => form.Faithful
  | _, .record _ fields _ _ _ => fields.Faithful
  | _, .text | _, .flag | _, .word64 | _, .int32 | _, .oneOf _ _ _ => True

def Fields.Faithful : {β σ : Type} → Fields β σ → Prop
  | _, _, .nil => True
  | _, _, .cons key form _ rest => key ∉ rest.keys ∧ form.Faithful ∧ rest.Faithful

end

namespace Fields

theorem Faithful.nodup_keys : {β σ : Type} → {fields : Fields β σ} → fields.Faithful →
    fields.keys.Nodup
  | _, _, .nil, _ => List.nodup_nil
  | _, _, .cons _ _ _ _, hf => List.nodup_cons.mpr ⟨hf.1, Faithful.nodup_keys hf.2.2⟩

theorem encode_keys_sublist : {β σ : Type} → (fields : Fields β σ) → (b : β) →
    ((Form.encodeFields fields b).map Prod.fst).Sublist fields.keys
  | _, _, .nil, _ => .slnil
  | _, _, .cons key _ presence rest, (a, b) => by
    rw [Form.encodeFields, keys]
    split
    · exact (encode_keys_sublist rest b).cons key
    · exact (encode_keys_sublist rest b).cons_cons key

theorem Faithful.nodup_encode {β σ : Type} {fields : Fields β σ} (hf : fields.Faithful) (b : β) :
    ((Form.encodeFields fields b).map Prod.fst).Nodup :=
  hf.nodup_keys.sublist (fields.encode_keys_sublist b)

variable {α β σ : Type} {key : String} {form : Form α} {presence : Presence α} {rest : Fields β σ}

theorem lookup_encode_self (hk : key ∉ rest.keys) (a : α) (b : β) :
    (Form.encodeFields (.cons key form presence rest) (a, b)).lookup key =
      if presence.omits a then .none else some (form.encode a) := by
  rw [Form.encodeFields]
  split
  · exact Members.lookup_eq_none_of_not_mem fun h => hk ((rest.encode_keys_sublist b).subset h)
  · rw [Members.lookup_cons, if_pos rfl]

theorem lookup_encode_of_ne {k : String} (h : k ≠ key) (a : α) (b : β) :
    (Form.encodeFields (.cons key form presence rest) (a, b)).lookup k =
      (Form.encodeFields rest b).lookup k := by
  rw [Form.encodeFields]
  split
  · rfl
  · rw [Members.lookup_cons, if_neg h]

end Fields

theorem Form.view_encode_ne_null : {α : Type} → (f : Form α) → f.isOptional = false → (a : α) →
    Source.view (f.encode a) ≠ .null
  | _, .text, _, _ | _, .flag, _, _ | _, .word64, _, _ | _, .int32, _, _ | _, .oneOf _ _ _, _, _
  | _, .list _, _, _ | _, .record _ _ _ _ _, _, _ => nofun

theorem decode_word64 (n : UInt64) : Form.word64.decode (Form.word64.encode n) = .ok n := by
  have h : 0 ≤ (n.toNat : Int) ∧ (n.toNat : Int) < Int.pow 2 64 := by
    have hn := n.toNat_lt
    have hp : Int.pow 2 64 = 2 ^ 64 := rfl
    omega
  rw [Form.encode, Form.decode]
  simp only [Source.view, if_pos h, Int.toNat_natCast, UInt64.ofNat_toNat]

theorem decode_int32 (n : Int32) : Form.int32.decode (Form.int32.encode n) = .ok n := by
  have h : -Int.pow 2 31 ≤ n.toInt ∧ n.toInt < Int.pow 2 31 := ⟨n.le_toInt, n.toInt_lt⟩
  rw [Form.encode, Form.decode]
  simp only [Source.view, if_pos h, Int32.ofInt_toInt]

theorem decodeItems_map {α : Type} {f : Form α} (hf : ∀ a, f.decode (f.encode a) = .ok a)
    (index : Nat) (as : List α) : decodeItems f.decode index (as.map f.encode) = .ok as := by
  induction as generalizing index with
  | nil => rfl
  | cons a as ih =>
    rw [List.map_cons, decodeItems, hf, ih]
    rfl

mutual

theorem Form.decode_encode : {α : Type} → (f : Form α) → f.Faithful → (a : α) →
    f.decode (f.encode a) = .ok a
  | _, .text, _, _ | _, .flag, _, _ => rfl
  | _, .word64, _, n => decode_word64 n
  | _, .int32, _, n => decode_int32 n
  | _, .oneOf choices name found, _, a => by
    rw [Form.encode, Form.decode, decodeChoice]
    simp only [Source.view, found a]
  | _, .optional form, hf, none => rfl
  | _, .optional form, hf, some a => by
    have hn := form.view_encode_ne_null hf.2 a
    rw [Form.encode, Form.decode]
    split
    · exact absurd ‹_› hn
    · rw [form.decode_encode hf.1 a]
      rfl
  | _, .list form, hf, as => by
    rw [Form.encode, Form.decode]
    exact decodeItems_map (form.decode_encode hf) 0 as
  | _, .record _ fields _ parts hp, hf, a => by
    have hn := Fields.Faithful.nodup_encode hf (parts a)
    refine (Form.decode_record_iff (Fields.Faithful.nodup_keys hf) rfl
      (Members.sorted_arrange _).nodup a).mpr ⟨parts a, ?_, (hp a).symm⟩
    exact fields.takes_encode hf (parts a) fun key _ => Members.lookup_arrange hn key

theorem Fields.takes_encode : {β σ : Type} → (fields : Fields β σ) → fields.Faithful →
    {members : List (String × Json)} → (b : β) →
    (∀ key ∈ fields.keys, members.lookup key = (Form.encodeFields fields b).lookup key) →
    fields.Takes members b
  | _, _, .nil, _, _, _, _ => trivial
  | _, _, .cons key form presence rest, hf, members, (a, b), hm => by
    obtain ⟨hk, hform, hrest⟩ := hf
    refine ⟨?_, rest.takes_encode hrest b fun k hr => ?_⟩
    · rw [hm key List.mem_cons_self, Fields.lookup_encode_self hk]
      cases ho : presence.omits a with
      | true => exact presence.absent_of_omits a ho
      | false => exact form.decode_encode hform a
    · have hne : k ≠ key := fun he => hk (he ▸ hr)
      rw [hm k (List.mem_cons_of_mem key hr), Fields.lookup_encode_of_ne hne]

end

theorem plain_int32 (n : Int32) : Json.Plain (Form.int32.encode n) := by
  have hl : -2 ^ 31 ≤ n.toInt := n.le_toInt
  have hu : n.toInt < 2 ^ 31 := n.toInt_lt
  rw [Form.encode]
  by_cases h : n.toInt < 0
  · have he : n.toInt = -(n.toInt.natAbs : Int) := by omega
    rw [he]
    exact .negative (by omega) (by omega)
  · have he : n.toInt = (n.toInt.natAbs : Int) := by omega
    rw [he]
    exact .natural (by omega)

mutual

theorem Form.plain_encode : {α : Type} → (f : Form α) → (a : α) → Json.Plain (f.encode a)
  | _, .text, s => .string s
  | _, .flag, b => .bool b
  | _, .word64, n => .natural n.toNat_lt
  | _, .int32, n => plain_int32 n
  | _, .oneOf _ name _, a => .string (name a)
  | _, .optional _, none => .null
  | _, .optional form, some a => form.plain_encode a
  | _, .list form, as => by
    refine .array fun j hj => ?_
    obtain ⟨a, -, rfl⟩ := List.mem_map.mp hj
    exact form.plain_encode a
  | _, .record _ fields _ parts _, a => Json.plain_ofMembers (fields.plain_encode (parts a))

theorem Fields.plain_encode : {β σ : Type} → (fields : Fields β σ) → (b : β) →
    ∀ m ∈ Form.encodeFields fields b, Json.Plain m.2
  | _, _, .nil, _, _, hm => by cases hm
  | _, _, .cons key form presence rest, (a, b), m, hm => by
    rw [Form.encodeFields] at hm
    split at hm
    · exact rest.plain_encode b m hm
    · rcases List.mem_cons.mp hm with rfl | hm
      · exact form.plain_encode a
      · exact rest.plain_encode b m hm

end

end QualityGate.Wire
