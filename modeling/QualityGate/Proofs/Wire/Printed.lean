import QualityGate.Proofs.Json.Spelling
import QualityGate.Proofs.Wire.Agreement
import QualityGate.Proofs.Wire.Indifference

namespace QualityGate.Wire

open Json (Document document memberDocument)

theorem Form.document_encode_ne_null : {α : Type} → (f : Form α) → f.isOptional = false →
    (a : α) → (f.encode a).document ≠ .null
  | _, .text, _, _ | _, .flag, _, _ | _, .word64, _, _ | _, .int32, _, _ | _, .oneOf _ _ _, _, _
  | _, .list _, _, _ | _, .record _ _ _ _ _, _, _ => nofun

theorem value?_word64 (n : UInt64) :
    Form.word64.value? (Form.word64.encode n).document = some n := by
  have hi : integerIn? 0 (Int.pow 2 64 - 1) (.integer n.toNat) = some (n.toNat : Int) := by
    have hn := n.toNat_lt
    have hp : Int.pow 2 64 = 2 ^ 64 := rfl
    rw [integerIn?, if_pos (by omega)]
  have hv := (Form.word64.plain_encode n).numeralValue?
  rw [Form.encode, document, Form.value?, integer?, hv, Option.bind_some, hi]
  simp

theorem value?_int32 (n : Int32) :
    Form.int32.value? (Form.int32.encode n).document = some n := by
  have hi : integerIn? (-Int.pow 2 31) (Int.pow 2 31 - 1) (.integer n.toInt) = some n.toInt := by
    have hl : -Int.pow 2 31 ≤ n.toInt := n.le_toInt
    have hu : n.toInt < Int.pow 2 31 := n.toInt_lt
    rw [integerIn?, if_pos (by omega)]
  have hv := (Form.int32.plain_encode n).numeralValue?
  rw [Form.encode, document, Form.value?, integer?, hv, Option.bind_some, hi]
  simp

variable {α β σ : Type}

theorem mapM_map_of_inverse {f : Document → Option α} {g : α → Document}
    (h : ∀ a, f (g a) = some a) (as : List α) : (as.map g).mapM f = some as := by
  induction as with
  | nil => rfl
  | cons a as ih =>
    rw [List.map_cons, List.mapM_cons, h, ih]
    rfl

theorem memberStep_printed (give? : String → Document → σ → Option σ) (values : σ)
    (m : String × Json) : memberStep give? values (memberDocument m) =
      give? m.1 (document m.2) values := by
  rw [memberStep, memberDocument, Json.bodyText?_flatMap, Option.bind_some]

theorem members_cons {key : String} {form : Form α} {presence : Presence α} {rest : Fields β σ}
    {ms : List (String × Json)} (h : key ∉ ms.map Prod.fst) (value : Option α) (values : σ) :
    (ms.map memberDocument).foldlM (memberStep (Fields.cons key form presence rest).give?)
        (value, values) =
      ((ms.map memberDocument).foldlM (memberStep rest.give?) values).map (value, ·) := by
  induction ms generalizing values with
  | nil => rfl
  | cons m ms ih =>
    have hk : key ≠ m.1 := fun he => h (he ▸ List.mem_cons_self)
    have hr : key ∉ ms.map Prod.fst := fun hr => h (List.mem_cons_of_mem _ hr)
    rw [List.map_cons, List.foldlM_cons, List.foldlM_cons, memberStep_printed, memberStep_printed,
      Fields.give?, if_neg hk]
    cases rest.give? m.1 (document m.2) values with
    | none => rfl
    | some values => exact ih hr values

mutual

theorem Form.value?_encode : {α : Type} → (f : Form α) → f.Faithful → (a : α) →
    f.value? (f.encode a).document = some a
  | _, .text, _, s => Json.bodyText?_flatMap s
  | _, .flag, _, _ => rfl
  | _, .word64, _, n => value?_word64 n
  | _, .int32, _, n => value?_int32 n
  | _, .oneOf choices name found, _, a => by
    rw [Form.encode, document, Form.value?, text?, Json.bodyText?_flatMap]
    exact found a
  | _, .optional _, _, none => rfl
  | _, .optional form, hf, some a => by
    rw [Form.encode, form.value?_optional (form.document_encode_ne_null hf.2 a),
      form.value?_encode hf.1 a, Option.map_some]
  | _, .list form, hf, as => by
    rw [Form.encode, document, Json.itemDocuments_eq_map, List.map_map]
    exact mapM_map_of_inverse (form.value?_encode hf) as
  | _, .record _ fields ofParts parts hp, hf, a => by
    obtain ⟨values, hv, hc⟩ := fields.members_encode hf (parts a)
    have hperm := (Members.arrange_perm (Fields.Faithful.nodup_encode hf (parts a))).map
      memberDocument
    rw [Form.encode, Json.ofMembers, document, Json.memberDocuments_eq_map, Form.value?,
      foldlM_perm memberStep_comm hperm, hv, Option.bind_some, hc]
    exact congrArg some (hp a)

theorem Fields.members_encode : {β σ : Type} → (fields : Fields β σ) → fields.Faithful →
    (b : β) → ∃ values, ((Form.encodeFields fields b).map memberDocument).foldlM
      (memberStep fields.give?) fields.none = some values ∧ fields.complete values = .ok b
  | _, _, .nil, _, _ => ⟨(), rfl, rfl⟩
  | _, _, .cons key form presence rest, hf, (a, b) => by
    obtain ⟨hk, hform, hrest⟩ := hf
    obtain ⟨values, hv, hc⟩ := rest.members_encode hrest b
    have hn : key ∉ (Form.encodeFields rest b).map Prod.fst :=
      fun hm => hk ((rest.encode_keys_sublist b).subset hm)
    rw [Form.encodeFields, Fields.none]
    cases ho : presence.omits a with
    | true =>
      refine ⟨(none, values), ?_, (Fields.complete_cons _ _ _ _).mpr ⟨?_, hc⟩⟩
      · rw [if_pos rfl, members_cons hn, hv, Option.map_some]
      · exact presence.absent_of_omits a ho
    | false =>
      refine ⟨(some a, values), ?_, (Fields.complete_cons _ _ _ _).mpr ⟨rfl, hc⟩⟩
      rw [if_neg Bool.false_ne_true, List.map_cons, List.foldlM_cons, memberStep_printed,
        Fields.give?, if_pos rfl, form.value?_encode hform a]
      exact (members_cons hn _ _).trans (by rw [hv, Option.map_some])

end

theorem Form.ofText_encode (f : Form α) (hf : f.Faithful) (a : α) {d : Document} {text : String}
    (ha : f.Indifferent (f.encode a).document d) (h : d.Spelled text) : f.ofText text = .ok a := by
  rw [f.ofText_eq_ok_iff h a, ← ha.value? hf]
  exact f.value?_encode hf a

/-- Values are kept by the form: each comes back from its JSON, from the text that is printed of it
and from any other text of it, and different ones are printed differently. -/
structure Form.RoundTrips (f : Form α) : Prop where
  json : ∀ a, f.ofJson (f.encode a) = .ok a
  parse : ∀ a, Json.parse (f.encode a).compact = .ok (f.encode a)
  text : ∀ a d text, f.Indifferent (f.encode a).document d → d.Spelled text → f.ofText text = .ok a
  compact : ∀ a, f.ofText (f.encode a).compact = .ok a
  injective : Function.Injective fun a => (f.encode a).compact

theorem Form.Faithful.roundTrips {f : Form α} (hf : f.Faithful) : f.RoundTrips := by
  have hc : ∀ a, f.ofText (f.encode a).compact = .ok a :=
    fun a => f.ofText_encode hf a (.refl _) (Json.spelled_compact (f.plain_encode a))
  refine ⟨fun a => ?_, fun a => Json.parse_compact (f.plain_encode a),
    fun a d text ha h => f.ofText_encode hf a ha h, hc, fun a b h => ?_⟩
  · rw [ofJson, f.decode_encode hf a]
    rfl
  · have ha := hc a
    dsimp only at h
    rw [h, hc b] at ha
    exact (Except.ok.inj ha).symm

end QualityGate.Wire
