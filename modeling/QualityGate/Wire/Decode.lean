import QualityGate.Wire.Form
import QualityGate.Wire.Mismatch

namespace QualityGate.Wire

/-- The outermost layer of a value. The members of a map have different names. -/
inductive View (ν : Type)
  | null
  | flag (b : Bool)
  | integer (z : Int)
  | minusZero
  | wide (z : Int)
  | real (x : Double)
  | char (c : Char)
  | text (s : String)
  | list (items : List ν)
  | map (members : List (String × ν))

class Source (ν : Type) where
  view : ν → View ν
  /-- A list that stands for a record must not have more items than the record has fields. -/
  refusesSurplus : Bool

def View.found {ν : Type} : View ν → Found
  | null => .null
  | flag b => .flag b
  | integer z => .integer z
  | minusZero => .minusZero
  | wide z => .wide z
  | real x => .real x
  | char c => .char c
  | text s => .text s
  | list _ => .list
  | map _ => .map

structure Fault (ν : Type) where
  cause : Mismatch
  path : List String
  value : ν

variable {ν : Type} [Source ν]

open Source

def invalidType {α : Type} (v : ν) (expected : String) : Except (Fault ν) α :=
  .error ⟨.invalidType (view v).found expected, [], v⟩

def within {α : Type} (step : String) : Except (Fault ν) α → Except (Fault ν) α
  | .ok a => .ok a
  | .error fault => .error { fault with path := step :: fault.path }

def decodeItems {α : Type} (decode : ν → Except (Fault ν) α) :
    Nat → List ν → Except (Fault ν) (List α)
  | _, [] => .ok []
  | index, v :: vs => do
    let a ← within (toString index) (decode v)
    let as ← decodeItems decode (index + 1) vs
    return a :: as

/-- One of the choices, by its name; a map from the name to nothing stands for it, too. -/
def decodeChoice {α : Type} (choices : List α) (name : α → String) (v : ν) :
    Except (Fault ν) α :=
  let choose (s : String) : Except (Fault ν) α :=
    match choices.find? (name · == s) with
    | some a => .ok a
    | none => .error ⟨.unknownVariant s (choices.map name), [], v⟩
  match view v with
  | .text s => choose s
  | .map [(s, content)] => do
    let a ← choose s
    match view content with
    | .null => .ok a
    | _ => invalidType content "unit"
  | .map _ => .error ⟨.invalidValue .map "map with a single key", [], v⟩
  | _ => invalidType v "string or map"

namespace Form

mutual

def decode : {α : Type} → Form α → ν → Except (Fault ν) α
  | _, text, v =>
    match view v with
    | .text s => .ok s
    | .char c => .ok (String.singleton c)
    | _ => invalidType v "a string"
  | _, flag, v =>
    match view v with
    | .flag b => .ok b
    | _ => invalidType v "a boolean"
  | _, word64, v =>
    match view v with
    | .integer z =>
      if 0 ≤ z ∧ z < Int.pow 2 64 then .ok (.ofNat z.toNat)
      else .error ⟨.invalidValue (.integer z) "u64", [], v⟩
    | .minusZero => .ok 0
    | _ => invalidType v "u64"
  | _, int32, v =>
    match view v with
    | .integer z =>
      if -Int.pow 2 31 ≤ z ∧ z < Int.pow 2 31 then .ok (.ofInt z)
      else .error ⟨.invalidValue (.integer z) "i32", [], v⟩
    | .minusZero => .ok 0
    | _ => invalidType v "i32"
  | _, oneOf choices name _, v => decodeChoice choices name v
  | _, optional form, v =>
    match view v with
    | .null => .ok none
    | _ => (decode form v).map some
  | _, list form, v =>
    match view v with
    | .list items => decodeItems (decode form) 0 items
    | _ => invalidType v "a sequence"
  | _, record name fields ofParts _ _, v =>
    match view v with
    | .map members => do
      let values ← members.foldlM (fun values m => decodeMember fields m.1 m.2 values) fields.none
      match fields.complete values with
      | .ok parts => .ok (ofParts parts)
      | .error key => .error ⟨.missingField key, [], v⟩
    | .list items => do
      let (parts, surplus) ←
        decodePositions fields (recordLength name fields.keys.length) v 0 items
      if surplus.isEmpty || !refusesSurplus ν then return ofParts parts
      else .error ⟨.invalidLength items.length "fewer elements in array", [], v⟩
    | _ => invalidType v (recordName name)

def decodeMember : {β σ : Type} → Fields β σ → String → ν → σ → Except (Fault ν) σ
  | _, _, .nil, _, _, values => .ok values
  | _, _, .cons key form _ rest, k, v, (value, values) =>
    if key = k then (within k (decode form v)).map fun a => (some a, values)
    else (decodeMember rest k v values).map fun values => (value, values)

def decodePositions : {β σ : Type} → Fields β σ → String → ν → Nat → List ν →
    Except (Fault ν) (β × List ν)
  | _, _, .nil, _, _, _, items => .ok ((), items)
  | _, _, .cons _ form presence rest, expected, whole, index, items =>
    match items with
    | item :: items => do
      let a ← within (toString index) (decode form item)
      let (values, surplus) ← decodePositions rest expected whole (index + 1) items
      return ((a, values), surplus)
    | [] =>
      match presence.absent with
      | some a => do
        let (values, surplus) ← decodePositions rest expected whole (index + 1) []
        return ((a, values), surplus)
      | none => .error ⟨.invalidLength index expected, [], whole⟩

end

end Form

instance : Source Json where
  view
    | .null => .null
    | .bool b => .flag b
    | .integer z => .integer z
    | .real x => .real x
    | .string s => .text s
    | .array items => .list items
    | .object members => .map members
  refusesSurplus := true

def Form.ofJson {α : Type} (form : Form α) (j : Json) : Except Mismatch α :=
  (form.decode j).mapError Fault.cause

end QualityGate.Wire
