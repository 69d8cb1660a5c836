import QualityGate.Number.Notation
import QualityGate.Text.Quoted

namespace QualityGate.Wire

/-- What stands at a place. A wide integer is one beyond 64 bits, and a zero with a minus sign is
told apart where the notation has integers with a sign. -/
inductive Found
  | null
  | flag (b : Bool)
  | integer (z : Int)
  | minusZero
  | wide (z : Int)
  | real (x : Double)
  | char (c : Char)
  | text (s : String)
  | list
  | map
deriving DecidableEq, Repr

inductive Mismatch
  | invalidType (found : Found) (expected : String)
  | invalidValue (found : Found) (expected : String)
  | invalidLength (length : Nat) (expected : String)
  | missingField (key : String)
  | duplicateField (key : String)
  | unknownVariant (name : String) (allowed : List String)
deriving DecidableEq, Repr

structure Wording where
  found : Found → String
  typeLead : String
  valueLead : String

def ticked (s : String) : String :=
  "`" ++ s ++ "`"

def choiceOf : List String → String
  | [] => "there are no variants"
  | [a] => "expected " ++ ticked a
  | [a, b] => "expected " ++ ticked a ++ " or " ++ ticked b
  | names => "expected one of " ++ ", ".intercalate (names.map ticked)

def Mismatch.message (w : Wording) : Mismatch → String
  | invalidType found expected => w.typeLead ++ w.found found ++ ", expected " ++ expected
  | invalidValue found expected => w.valueLead ++ w.found found ++ ", expected " ++ expected
  | invalidLength length expected =>
    "invalid length " ++ Text.Digits.decimal length ++ ", expected " ++ expected
  | missingField key => "missing field " ++ ticked key
  | duplicateField key => "duplicate field " ++ ticked key
  | unknownVariant name allowed => "unknown variant " ++ ticked name ++ ", " ++ choiceOf allowed

def wideKind (z : Int) : String :=
  if z < 0 then "i128" else "u128"

def Found.inJson : Found → String
  | null => "null"
  | flag b => "boolean " ++ ticked (if b then "true" else "false")
  | integer z => "integer " ++ ticked (Text.Digits.signed z)
  | minusZero => "integer " ++ ticked "0"
  | wide z => "integer " ++ ticked (Text.Digits.signed z) ++ " as " ++ wideKind z
  | real x => "floating point " ++ ticked (Number.Notation.json x)
  | char c => "character " ++ ticked (String.singleton c)
  | text s => "string " ++ Text.Quoted.text s
  | list => "sequence"
  | map => "map"

def Wording.json : Wording where
  found := Found.inJson
  typeLead := "invalid type: "
  valueLead := "invalid value: "

end QualityGate.Wire
