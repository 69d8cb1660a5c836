import QualityGate.Number.Double

namespace QualityGate.Number.Shortest

open Double

/-- The bounds of the reals that round to a double, as fractions over one denominator, with the
double itself between them; both bounds round to the double when its significand is even. -/
structure Interval where
  low : Nat
  value : Nat
  high : Nat
  denominator : Nat
  closed : Bool

def interval (m : Nat) (e : Int) : Interval :=
  let (up, down) := powerOfTwo (e - 2)
  let below := if m = Nat.pow 2 52 ∧ -1074 < e then 1 else 2
  ⟨(4 * m - below) * up, 4 * m * up, (4 * m + 2) * up, down, m % 2 = 0⟩

def digitCount (n : Nat) : Nat :=
  (toString n).length

def firstDigit (i : Interval) : Int :=
  if i.denominator ≤ i.value then digitCount (i.value / i.denominator) - 1
  else -(digitCount ((i.denominator - 1) / i.value) : Int)

structure Decimal where
  digits : Nat
  exponent : Int
deriving DecidableEq, Repr

def Interval.holds (i : Interval) (d : Decimal) : Bool :=
  let (up, down) := powerOfTen d.exponent
  let n := d.digits * up * i.denominator
  if i.closed then i.low * down ≤ n && n ≤ i.high * down
  else i.low * down < n && n < i.high * down

/-- The nearest decimal with the last digit at the given exponent, if one of the value's two
neighbours there rounds to the double. -/
def onGrid (i : Interval) (exponent : Int) : Option Decimal :=
  let (up, down) := powerOfTen exponent
  let unit := i.denominator * up
  let floor := i.value * down / unit
  let under : Decimal := ⟨floor, exponent⟩
  let above : Decimal := ⟨floor + 1, exponent⟩
  let rest := i.value * down % unit
  match i.holds under, i.holds above with
  | true, true =>
    if 2 * rest < unit ∨ (2 * rest = unit ∧ floor % 2 = 0) then some under else some above
  | true, false => some under
  | false, true => some above
  | false, false => none

def normalise (d : Decimal) : Decimal :=
  if h : d.digits ≠ 0 ∧ d.digits % 10 = 0 then normalise ⟨d.digits / 10, d.exponent + 1⟩ else d
termination_by d.digits
decreasing_by omega

def ofFinite (m : Nat) (e : Int) : Decimal :=
  if m = 0 then ⟨0, 0⟩
  else
    let i := interval m e
    let first := firstDigit i
    match (List.range 17).findSome? fun (n : Nat) => onGrid i (first - n) with
    | some d => normalise d
    | none => ⟨0, 0⟩

end QualityGate.Number.Shortest
