import QualityGate.Proofs.Json.Document
import QualityGate.Wire.Form

namespace QualityGate.Wire

open Json (Document bodyText?)

def integerIn? (low high : Int) : Json.Numeral → Option Int
  | .integer z => if low ≤ z ∧ z ≤ high then some z else none
  | .real _ => none

def text? : Document → Option String
  | .string body => bodyText? body
  | _ => none

def flag? : Document → Option Bool
  | .bool b => some b
  | _ => none

def integer? (low high : Int) : Document → Option Int
  | .number n => (Json.numeralValue? n).bind (integerIn? low high)
  | _ => none

/-- A member counts by its name, which has to be a text. -/
def memberStep {σ : Type} (give? : String → Document → σ → Option σ) (values : σ)
    (m : List Char × Document) : Option σ :=
  (bodyText? m.1).bind fun name => give? name m.2 values

mutual

def Form.value? : {α : Type} → Form α → Document → Option α
  | _, .text, d => text? d
  | _, .flag, d => flag? d
  | _, .word64, d => (integer? 0 (Int.pow 2 64 - 1) d).map fun z => .ofNat z.toNat
  | _, .int32, d => (integer? (-Int.pow 2 31) (Int.pow 2 31 - 1) d).map fun z => .ofInt z
  | _, .oneOf choices name _, d => (text? d).bind fun s => choices.find? (name · == s)
  | _, .optional form, d =>
    match d with
    | .null => some none
    | d => (form.value? d).map some
  | _, .list form, d =>
    match d with
    | .array ds => ds.mapM form.value?
    | _ => none
  | _, .record _ fields ofParts _ _, d =>
    match d with
    | .object ms => (ms.foldlM (memberStep fields.give?) fields.none).bind fun values =>
      (fields.complete values).toOption.map ofParts
    | .array ds => (fields.positions? ds).map ofParts
    | _ => none

/-- The value of a member goes to the field with its name, which must not have one yet. -/
def Fields.give? : {β σ : Type} → Fields β σ → String → Document → σ → Option σ
  | _, _, .nil, _, _, values => some values
  | _, _, .cons key form _ rest, name, d, (value, values) =>
    if key = name then
      if value.isSome then none else (form.value? d).map fun a => (some a, values)
    else (rest.give? name d values).map fun values => (value, values)

/-- The values of the fields from a list that has no more items than there are fields. -/
def Fields.positions? : {β σ : Type} → Fields β σ → List Document → Option β
  | _, _, .nil, ds => if ds.isEmpty then some () else none
  | _, _, .cons _ form _ rest, d :: ds =>
    (form.value? d).bind fun a => (rest.positions? ds).map (a, ·)
  | _, _, .cons _ _ presence rest, [] =>
    presence.absent.bind fun a => (rest.positions? []).map (a, ·)

end

theorem Form.value?_optional {α : Type} (form : Form α) {d : Document} (h : d ≠ .null) :
    (optional form).value? d = (form.value? d).map some := by
  cases d with
  | null => exact absurd rfl h
  | _ => rfl

end QualityGate.Wire
