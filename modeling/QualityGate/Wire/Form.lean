import QualityGate.Json.Basic

namespace QualityGate.Wire

/-- What the absence of a record's field means, and which values are written by leaving the field
out. -/
structure Presence (α : Type) where
  absent : Option α
  omits : α → Bool
  absent_of_omits : ∀ a, omits a = true → absent = some a

namespace Presence

variable {α : Type}

def required : Presence α :=
  ⟨none, fun _ => false, by simp⟩

def defaultTo (a : α) : Presence α :=
  ⟨some a, fun _ => false, by simp⟩

/-- A field that is left out exactly when it holds nothing. -/
def ifAny : Presence (Option α) :=
  ⟨some none, Option.isNone, by simp⟩

end Presence

mutual

/-- The forms of a type. -/
inductive Form : Type → Type 1
  | text : Form String
  | flag : Form Bool
  | word64 : Form UInt64
  | int32 : Form Int32
  /-- One of some values, by its name. -/
  | oneOf {α : Type} (choices : List α) (name : α → String)
      (found : ∀ a, choices.find? (name · == name a) = some a) : Form α
  | optional {α : Type} (form : Form α) : Form (Option α)
  | list {α : Type} (form : Form α) : Form (List α)
  /-- A record is put together from its fields. -/
  | record {α β σ : Type} (name : String) (fields : Fields β σ) (ofParts : β → α) (parts : α → β)
      (ofParts_parts : ∀ a, ofParts (parts a) = a) : Form α

/-- The fields of a record in order, with the type of all their values and the type of those that
have been read so far. -/
inductive Fields : Type → Type → Type 1
  | nil : Fields Unit Unit
  | cons {α β σ : Type} (key : String) (form : Form α) (presence : Presence α)
      (rest : Fields β σ) : Fields (α × β) (Option α × σ)

end

namespace Fields

def keys : {β σ : Type} → Fields β σ → List String
  | _, _, nil => []
  | _, _, cons key _ _ rest => key :: keys rest

def none : {β σ : Type} → Fields β σ → σ
  | _, _, nil => ()
  | _, _, cons _ _ _ rest => (Option.none, none rest)

def complete : {β σ : Type} → Fields β σ → σ → Except String β
  | _, _, nil, _ => .ok ()
  | _, _, cons key _ presence rest, (value, values) =>
    match value <|> presence.absent with
    | Option.none => .error key
    | some a => (complete rest values).map (a, ·)

end Fields

def recordName (name : String) : String :=
  "struct " ++ name

def recordLength (name : String) (count : Nat) : String :=
  recordName name ++ " with " ++ toString count ++ (if count = 1 then " element" else " elements")

namespace Form

mutual

def encode : {α : Type} → Form α → α → Json
  | _, text, s => .string s
  | _, flag, b => .bool b
  | _, word64, n => .integer n.toNat
  | _, int32, n => .integer n.toInt
  | _, oneOf _ name _, a => .string (name a)
  | _, optional form, a =>
    match a with
    | none => .null
    | some a => encode form a
  | _, list form, as => .array (as.map (encode form))
  | _, record _ fields _ parts _, a => .ofMembers (encodeFields fields (parts a))

def encodeFields : {β σ : Type} → Fields β σ → β → List (String × Json)
  | _, _, .nil, _ => []
  | _, _, .cons key form presence rest, (a, values) =>
    if presence.omits a then encodeFields rest values
    else (key, encode form a) :: encodeFields rest values

end

end Form
end QualityGate.Wire
