import QualityGate.Number.Notation
import QualityGate.Yaml.Token

namespace QualityGate.Yaml

/-- A wide integer is one that 64 bits do not hold. A zero with a minus sign is told apart. -/
inductive Scalar
  | null
  | flag (b : Bool)
  | integer (z : Int)
  | minusZero
  | wide (z : Int)
  | real (x : Double)
  | text (s : String)
deriving DecidableEq, Repr

namespace Scalar

open Text.Digits

def isNull (s : String) : Bool :=
  ["", "~", "null", "Null", "NULL"].contains s

def flag? (s : String) : Option Bool :=
  if ["true", "True", "TRUE"].contains s then some true
  else if ["false", "False", "FALSE"].contains s then some false
  else none

def startsWithSign (cs : List Char) : Bool :=
  cs.head?.any fun c => c = '+' || c = '-'

def withoutPlus (cs : List Char) : List Char :=
  match cs with
  | '+' :: cs => cs
  | cs => cs

def hasLeadingZero (cs : List Char) : Bool :=
  let digits := if startsWithSign cs then cs.tail else cs
  digits.length > 1 && digits.head? == some '0' && digits.all Char.isDigit

def based? (cs : List Char) : Option Nat :=
  match cs with
  | '0' :: 'x' :: ds => natural? 16 ds
  | '0' :: 'o' :: ds => natural? 8 ds
  | '0' :: 'b' :: ds => natural? 2 ds
  | _ => none

def unsigned? (cs : List Char) : Option Nat :=
  let digits := withoutPlus cs
  based? digits <|> if hasLeadingZero cs then none else natural? 10 digits

def negative? (cs : List Char) : Option Nat :=
  match cs with
  | '-' :: digits => based? digits <|> if hasLeadingZero cs then none else natural? 10 digits
  | _ => none

def integer? (cs : List Char) : Option Scalar :=
  match unsigned? cs, negative? cs with
  | some n, _ =>
    if n < Nat.pow 2 64 then some (integer n)
    else if n < Nat.pow 2 128 then some (wide n) else none
  | none, some n =>
    if n = 0 then some minusZero
    else if n ≤ Nat.pow 2 63 then some (integer (-n))
    else if n ≤ Nat.pow 2 127 then some (wide (-n)) else none
  | none, none => none

def real? (s : String) : Option Double :=
  if [".inf", ".Inf", ".INF", "+.inf", "+.Inf", "+.INF"].contains s then some (.infinite false)
  else if ["-.inf", "-.Inf", "-.INF"].contains s then some (.infinite true)
  else if [".nan", ".NaN", ".NAN"].contains s then some .nan
  else
    let digits := withoutPlus s.toList
    if s.toList.head? = some '+' && startsWithSign digits then none
    else (Number.Notation.double? digits).filter Double.isFinite

def ofPlain (s : String) : Scalar :=
  if isNull s then null
  else match flag? s, integer? s.toList with
    | some b, _ => flag b
    | none, some i => i
    | none, none =>
      if hasLeadingZero s.toList then text s
      else match real? s with
        | some x => real x
        | none => text s

def of (plain : Bool) (s : String) : Scalar :=
  if plain then ofPlain s else text s

def typeTag (name : String) : Tag :=
  Text.Utf8.encode ("tag:yaml.org,2002:" ++ name)

/-- The meaning of a scalar with a tag, if it is of the type that the tag names. Local tags name
no type, and other tags make a text. -/
def ofTagged? (tag : Tag) (plain : Bool) (s : String) : Option Scalar :=
  if tag = typeTag "bool" then (flag? s).map flag
  else if tag = typeTag "int" then integer? s.toList
  else if tag = typeTag "float" then (real? s).map real
  else if tag = typeTag "null" then (if isNull s && s != "" then some null else none)
  else if tag.head? = some 0x21 then some (of plain s)
  else some (text s)

end Scalar
end QualityGate.Yaml
