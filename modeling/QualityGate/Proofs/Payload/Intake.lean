import QualityGate.Log.World
import QualityGate.Payload.Intake
import QualityGate.Payload.Screening
import QualityGate.Proofs.Text.Utf8

namespace QualityGate.Payload

open Log

/-- The delivery comes to its end, and all of its bytes together are those of the text. -/
structure Delivery.Brings (d : Delivery) (text : String) : Prop where
  complete : d.ending = .complete
  bytes : d.chunks.flatten = Text.Utf8.encode text

theorem readOn?_eq (before : List UInt8) (chunks : List (List UInt8)) :
    readOn? before chunks = Text.Utf8.decode? (before ++ chunks.flatten) := by
  induction chunks generalizing before with
  | nil => rw [readOn?, List.flatten_nil, List.append_nil]
  | cons chunk chunks ih => rw [readOn?, ih, List.flatten_cons, List.append_assoc]

theorem Delivery.text?_eq_some_iff (d : Delivery) (text : String) :
    d.text? = some text ↔ d.Brings text := by
  obtain ⟨chunks, ending⟩ := d
  cases ending with
  | complete =>
    rw [Delivery.text?, readOn?_eq, List.nil_append, Text.Utf8.decode?_eq_some_iff]
    exact ⟨fun h => ⟨rfl, h⟩, fun h => h.bytes⟩
  | failed | stalled | died | unstarted =>
    refine iff_of_false nofun fun h => ?_
    cases h.complete

theorem Delivery.text?_eq_none_iff (d : Delivery) :
    d.text? = none ↔ ∀ text, ¬ d.Brings text := by
  simp only [← d.text?_eq_some_iff, Option.eq_none_iff_forall_ne_some, ne_eq]

theorem Delivery.text?_congr {d d' : Delivery} (hb : d'.chunks.flatten = d.chunks.flatten)
    (he : d'.ending = d.ending) : d'.text? = d.text? := by
  rw [Delivery.text?, Delivery.text?, readOn?_eq, readOn?_eq, hb, he]

theorem parse_substitute : parse substitute = .ok ⟨none, none⟩ := by
  rfl

variable {m : Type → Type} [Monad m] [Journal m]

theorem receive_of_brings {d : Delivery} {text : String} (h : d.Brings text) :
    receive (m := m) d = pure text := by
  have ht := (d.text?_eq_some_iff text).mpr h
  simp [receive, Delivery.text, ht]

theorem receive_of_not_brings {d : Delivery} (h : ∀ text, ¬ d.Brings text) :
    receive (m := m) d = (do
      event .warn .payload d.complaint.1 d.complaint.2
      return substitute) := by
  have ht := d.text?_eq_none_iff.mpr h
  simp [receive, Delivery.text, ht]

/-- A payload is taken in as a whole or not at all. The text that a delivery brings does not depend
on how it is cut into pieces, and without one there is a complaint and the payload that stands for
none, which lacks its fields whatever the settings are. -/
theorem receive_whole_or_none (d : Delivery) :
    (∀ text, d.Brings text → receive (m := m) d = pure text) ∧
      ((∀ text, ¬ d.Brings text) → receive (m := m) d = (do
        event .warn .payload d.complaint.1 d.complaint.2
        return substitute)) ∧
      (∀ d' : Delivery, d'.chunks.flatten = d.chunks.flatten → d'.ending = d.ending →
        receive (m := m) d' = receive d) ∧
      ∃ p, parse substitute = .ok p ∧ ∀ hook, p.screen hook = .missingFields := by
  refine ⟨fun text h => receive_of_brings h, fun h => receive_of_not_brings h, ?_, ?_⟩
  · intro d' hb he
    have ht := Delivery.text?_congr hb he
    simp only [receive, Delivery.text, Delivery.complaint, ht, he]
  · exact ⟨_, parse_substitute, fun hook => rfl⟩

def cutDelivery : Delivery :=
  ⟨[[0x22, 0xC3], [0xA9, 0x22]], .complete⟩

def shortDelivery : Delivery :=
  ⟨[[0x22, 0xC3]], .complete⟩

theorem brings_cutDelivery : cutDelivery.Brings "\"é\"" where
  complete := rfl
  bytes := by rw [Text.Utf8.encode_eq_flatMap]; decide

theorem not_brings_shortDelivery (text : String) : ¬ shortDelivery.Brings text := by
  have hc : Text.Utf8.chars [0x22, 0xC3] = [some '"', none] := by
    simp [Text.Utf8.chars, Text.Utf8.next, Text.Utf8.shape, Text.Utf8.complete, Text.Utf8.leading]
  have h : shortDelivery.text? = none := by
    change Text.Utf8.decode? [0x22, 0xC3] = none
    rw [Text.Utf8.decode?, hc]
    rfl
  exact shortDelivery.text?_eq_none_iff.mp h text

theorem receive_whole_or_none_cut :
    cutDelivery.Brings "\"é\"" ∧ receive (m := WorldM Unit) cutDelivery = pure "\"é\"" ∧
      receive (m := WorldM Unit) ⟨[[0x22, 0xC3, 0xA9, 0x22]], .complete⟩ = receive cutDelivery ∧
      (∀ text, ¬ shortDelivery.Brings text) ∧
      receive (m := WorldM Unit) shortDelivery = (do
        event .warn .payload "Failed to read payload" ["error"]
        return substitute) :=
  ⟨brings_cutDelivery, (receive_whole_or_none cutDelivery).1 _ brings_cutDelivery,
    (receive_whole_or_none cutDelivery).2.2.1 _ rfl rfl, not_brings_shortDelivery,
    (receive_whole_or_none shortDelivery).2.1 not_brings_shortDelivery⟩

end QualityGate.Payload
