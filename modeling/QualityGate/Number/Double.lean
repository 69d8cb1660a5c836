
namespace QualityGate

/-- A finite number is `significand * 2 ^ exponent` with its sign; the significand is below
`2 ^ 53`, and below `2 ^ 52` only at the least exponent. -/
inductive Double
  | finite (negative : Bool) (significand : Nat) (exponent : Int)
  | infinite (negative : Bool)
  | nan
deriving DecidableEq, Repr, Inhabited

namespace Double

def powerOfTwo (e : Int) : Nat × Nat :=
  (Nat.pow 2 e.toNat, Nat.pow 2 (-e).toNat)

def powerOfTen (e : Int) : Nat × Nat :=
  (Nat.pow 10 e.toNat, Nat.pow 10 (-e).toNat)

def divideNearest (num den : Nat) : Nat :=
  let q := num / den
  let r := num % den
  if 2 * r < den then q
  else if den < 2 * r then q + 1
  else q + q % 2

def lastBit (num den : Nat) : Int :=
  let e : Int := (num.log2 : Int) - den.log2 - 53
  let (up, down) := powerOfTwo e
  let e := if Nat.pow 2 53 ≤ (num * down) / (den * up) then e + 1 else e
  max e (-1074)

def ofRatio (negative : Bool) (num den : Nat) : Double :=
  if num = 0 then finite negative 0 (-1074)
  else
    let e := lastBit num den
    let (up, down) := powerOfTwo e
    let m := divideNearest (num * down) (den * up)
    let (m, e) := if m = Nat.pow 2 53 then (Nat.pow 2 52, e + 1) else (m, e)
    if 971 < e then infinite negative else finite negative m e

def ofNat (n : Nat) : Double :=
  ofRatio false n 1

/-- The double nearest to `digits * 10 ^ exponent`. Exponents that leave no doubt are not worked
out. -/
def ofDecimal (negative : Bool) (digits : Nat) (exponent : Int) : Double :=
  let size : Int := digits.log2
  if digits = 0 then finite negative 0 (-1074)
  else if 400 < exponent then infinite negative
  else if exponent * 3 + size < -1200 then finite negative 0 (-1074)
  else
    let (up, down) := powerOfTen exponent
    ofRatio negative (digits * up) down

def isZero : Double → Bool
  | finite _ 0 _ => true
  | _ => false

def isInfinite : Double → Bool
  | infinite _ => true
  | _ => false

def isFinite : Double → Bool
  | finite .. => true
  | _ => false

def negate : Double → Double
  | finite negative m e => finite (!negative) m e
  | infinite negative => infinite (!negative)
  | nan => nan

def ratio (m : Nat) (e : Int) : Nat × Nat :=
  let (up, down) := powerOfTwo e
  (m * up, down)

def multiply : Double → Double → Double
  | finite s m e, finite t n f =>
    let (up, down) := powerOfTwo (e + f)
    ofRatio (s != t) (m * n * up) down
  | _, _ => nan

def divide : Double → Double → Double
  | finite s m e, finite t n f =>
    let (up, down) := powerOfTwo (e - f)
    ofRatio (s != t) (m * up) (n * down)
  | _, _ => nan

end Double
end QualityGate
