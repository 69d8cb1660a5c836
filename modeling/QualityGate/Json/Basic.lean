import QualityGate.Members
import QualityGate.Number.Double

namespace QualityGate

inductive Json
  | null
  | bool (b : Bool)
  | integer (z : Int)
  | real (x : Double)
  | string (s : String)
  | array (items : List Json)
  | object (members : List (String × Json))
deriving Repr, Inhabited, BEq

namespace Json

def ofMembers (members : List (String × Json)) : Json :=
  object (Members.arrange members)

def ofOption {α : Type} (f : α → Json) : Option α → Json
  | none => null
  | some a => f a

def ofNat (n : Nat) : Json :=
  integer n

def strings (xs : List String) : Json :=
  array (xs.map string)

end Json
end QualityGate
