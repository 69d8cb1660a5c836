import QualityGate.Text.Digits

namespace QualityGate.Shell.Numeral

def isSpace (c : Char) : Bool :=
  [' ', '\t', '\n', '\x0b', '\x0c', '\r'].contains c

def largest : Int := Int.pow 2 63 - 1

def smallest : Int := -Int.pow 2 63

def wrap (z : Int) : Int :=
  Int.bmod z (Nat.pow 2 64)

def baseOf (cs : List Char) : Nat × List Char :=
  let isHex (c : Char) := (Text.Digits.valueIn? 16 c).isSome
  match cs with
  | '0' :: x :: d :: r =>
    if (x = 'x' || x = 'X') && isHex d then (16, d :: r) else (8, cs)
  | '0' :: _ => (8, cs)
  | _ => (10, cs)

/-- The number at the start of a text and what follows it. Without a base the numeral tells its
own. -/
def leading? (base : Option Nat) (cs : List Char) : Option (Int × List Char) :=
  let (negative, cs) := match cs.dropWhile isSpace with
    | '-' :: r => (true, r)
    | '+' :: r => (false, r)
    | r => (false, r)
  let (base, cs) := match base with
    | some b => (b, cs)
    | none => baseOf cs
  let digits := cs.takeWhile fun c => (Text.Digits.valueIn? base c).isSome
  (Text.Digits.natural? base digits).map fun n =>
    (if negative then -(n : Int) else n, cs.drop digits.length)

/-- The number that a text is, but for blanks around it. Where a numeral tells its own base, blanks
alone are zero. -/
def whole? (base : Option Nat) (s : String) : Option Int :=
  match leading? base s.toList with
  | some (z, rest) => if rest.all isSpace && smallest ≤ z && z ≤ largest then some z else none
  | none => if base.isNone && s.toList.all isSpace then some 0 else none

def count? (s : String) : Option Nat :=
  match whole? (some 10) s with
  | some z => if 0 ≤ z && z < Int.pow 2 31 then some z.toNat else none
  | none => none

def refusal (s : String) : String :=
  "Illegal number: " ++ s

end QualityGate.Shell.Numeral
