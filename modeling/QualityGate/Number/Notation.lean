import QualityGate.Number.Shortest
import QualityGate.Text.Digits

namespace QualityGate.Number.Notation

open Shortest Text.Digits

def positional (d : Decimal) : String :=
  let digits := (decimal d.digits).toList
  String.ofList <|
    if 0 ≤ d.exponent then
      if d.digits = 0 then ['0'] else digits ++ List.replicate d.exponent.toNat '0'
    else
      let places := (-d.exponent).toNat
      if places < digits.length then
        digits.take (digits.length - places) ++ '.' :: digits.drop (digits.length - places)
      else '0' :: '.' :: (List.replicate (places - digits.length) '0' ++ digits)

def scientific (d : Decimal) : String :=
  let digits := (decimal d.digits).toList
  let exponent := d.exponent + (digits.length - 1 : Nat)
  let mantissa := match digits with
    | [] => []
    | [c] => [c]
    | c :: cs => c :: '.' :: cs
  String.ofList mantissa ++ (if exponent < 0 then "e-" else "e+") ++ decimal exponent.natAbs

def signOf (negative : Bool) : String :=
  if negative then "-" else ""

def plain : Double → String
  | .finite negative m e => signOf negative ++ positional (ofFinite m e)
  | .infinite negative => signOf negative ++ "inf"
  | .nan => "NaN"

/-- A finite double as a JSON number that does not read as an integer: positional from `1e-5` up
to `1e16`, and scientific beyond. -/
def json : Double → String
  | .finite negative m e =>
    let d := ofFinite m e
    let first := d.exponent + (digitCount d.digits - 1 : Nat)
    signOf negative ++
      if m = 0 then "0.0"
      else if -5 ≤ first ∧ first < 16 then
        if d.exponent < 0 then positional d else positional d ++ ".0"
      else scientific d
  | .infinite _ => "null"
  | .nan => "null"

def digitRun (cs : List Char) : List Char × List Char :=
  cs.span Char.isDigit

def exponent? (cs : List Char) : Option Int :=
  match cs with
  | '+' :: ds => (natural? 10 ds).map Int.ofNat
  | '-' :: ds => (natural? 10 ds).map fun n => -(n : Int)
  | ds => (natural? 10 ds).map Int.ofNat

/-- A decimal numeral without its sign: digits with a point before, among or after them, and an
exponent. -/
def unsigned? (negative : Bool) (cs : List Char) : Option Double :=
  let (whole, rest) := digitRun cs
  let (fraction, rest) := match rest with
    | '.' :: rest => digitRun rest
    | rest => ([], rest)
  let digits := whole ++ fraction
  let exponent := match rest with
    | [] => some 0
    | 'e' :: rest | 'E' :: rest => exponent? rest
    | _ => none
  match natural? 10 digits, exponent with
  | some n, some e => some (Double.ofDecimal negative n (e - fraction.length))
  | _, _ => none

/-- A numeral with its sign, or the word for an infinity or for no number, in any case. -/
def double? (cs : List Char) : Option Double :=
  let (negative, body) := match cs with
    | '-' :: cs => (true, cs)
    | '+' :: cs => (false, cs)
    | cs => (false, cs)
  let word := String.ofList (body.map Char.toLower)
  if word = "inf" ∨ word = "infinity" then some (.infinite negative)
  else if word = "nan" then some .nan
  else unsigned? negative body

end QualityGate.Number.Notation
