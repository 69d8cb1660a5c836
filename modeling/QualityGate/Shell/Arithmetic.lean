import QualityGate.Shell.Session

namespace QualityGate.Shell.Arithmetic

inductive Operator
  | times
  | divide
  | modulo
  | plus
  | minus
  | shiftLeft
  | shiftRight
  | less
  | atMost
  | greater
  | atLeast
  | equal
  | different
  | bitAnd
  | bitXor
  | bitOr
deriving DecidableEq, Repr

inductive Expression
  | number (z : Int)
  | named (name : String)
  | negative (a : Expression)
  | not (a : Expression)
  | complement (a : Expression)
  | binary (op : Operator) (a b : Expression)
  | both (a b : Expression)
  | either (a b : Expression)
  | choice (a b c : Expression)
  /-- The variable gets a value, or what an operator makes of the value it has and another. -/
  | assign (name : String) (op : Option Operator) (a : Expression)
  /-- Nothing stands where an operand has to. -/
  | missing
  /-- What has to stand behind does not. -/
  | unfinished (a : Expression) (expected : String)

inductive Token
  | number (z : Int)
  | name (s : String)
  | sign (s : String)
deriving DecidableEq, Repr

namespace Operator

def signs : List (String × Operator) :=
  [("*", times), ("/", divide), ("%", modulo), ("+", plus), ("-", minus), ("<<", shiftLeft),
    (">>", shiftRight), ("<", less), ("<=", atMost), (">", greater), (">=", atLeast),
    ("==", equal), ("!=", different), ("&", bitAnd), ("^", bitXor), ("|", bitOr)]

def rank : Operator → Nat
  | times | divide | modulo => 0
  | plus | minus => 1
  | shiftLeft | shiftRight => 2
  | less | atMost | greater | atLeast => 3
  | equal | different => 4
  | bitAnd => 5
  | bitXor => 6
  | bitOr => 7

def assigns (op : Operator) : Bool :=
  [times, divide, modulo, plus, minus, shiftLeft, shiftRight, bitAnd, bitXor, bitOr].contains op

def bits (z : Int) : Nat :=
  (z % Int.pow 2 64).toNat

def result? (op : Operator) (a b : Int) : Option Int :=
  let truth (p : Bool) : Int := if p then 1 else 0
  let places := bits b % 64
  match op with
  | times => some (Numeral.wrap (a * b))
  | divide => if b = 0 then none else some (Numeral.wrap (a.tdiv b))
  | modulo => if b = 0 then none else some (a.tmod b)
  | plus => some (Numeral.wrap (a + b))
  | minus => some (Numeral.wrap (a - b))
  | shiftLeft => some (Numeral.wrap (a * Int.pow 2 places))
  | shiftRight => some (a / Int.pow 2 places)
  | less => some (truth (a < b))
  | atMost => some (truth (a ≤ b))
  | greater => some (truth (a > b))
  | atLeast => some (truth (a ≥ b))
  | equal => some (truth (a = b))
  | different => some (truth (a ≠ b))
  | bitAnd => some (Numeral.wrap (bits a &&& bits b : Nat))
  | bitXor => some (Numeral.wrap (bits a ^^^ bits b : Nat))
  | bitOr => some (Numeral.wrap (bits a ||| bits b : Nat))

end Operator

def signs : List String :=
  ["<<=", ">>=", "<<", ">>", "<=", ">=", "==", "!=", "&&", "||", "*=", "/=", "%=", "+=", "-=",
    "&=", "^=", "|=", "<", ">", "=", "!", "&", "|", "^", "*", "/", "%", "+", "-", "~", "?", ":",
    "(", ")"]

/-- The tokens of an expression. A character that is no part of one is a sign of its own. -/
def tokens : Nat → List Char → List Token
  | 0, _ => []
  | _ + 1, [] => []
  | fuel + 1, c :: cs =>
    if c = ' ' || c = '\t' || c = '\n' then tokens fuel cs
    else if c.isDigit then
      match Numeral.leading? none (c :: cs) with
      | some (z, rest) => .number (min z Numeral.largest) :: tokens fuel rest
      | none => []
    else if isNameStart c then
      let name := (c :: cs).takeWhile isNameChar
      .name (String.ofList name) :: tokens fuel ((c :: cs).drop name.length)
    else
      match signs.find? fun s => s.toList.isPrefixOf (c :: cs) with
      | some s => .sign s :: tokens fuel ((c :: cs).drop s.length)
      | none => .sign c.toString :: tokens fuel cs

def binary? : Token → Option Operator
  | .sign s => Operator.signs.lookup s
  | _ => none

def assignment? : Token → Option (Option Operator)
  | .sign "=" => some none
  | .sign s =>
    if s.toList.getLast? = some '=' then
      ((Operator.signs.lookup (String.ofList s.toList.dropLast)).filter Operator.assigns).map some
    else none
  | _ => none

abbrev Reading := StateM (List Token)

namespace Reading

def next? : Reading (Option Token) := do
  return (← get).head?

def advance : Reading Unit :=
  modify List.tail

def closed (a : Expression) (sign : String) : Reading Expression := do
  if (← next?) = some (.sign sign) then
    advance
    return a
  else return .unfinished a ("'" ++ sign ++ "'")

mutual

def expression : Nat → Reading Expression
  | 0 => return .missing
  | fuel + 1 => do
    match ← get with
    | .name x :: t :: rest =>
      match assignment? t with
      | some op =>
        set rest
        return .assign x op (← expression fuel)
      | none => conditional fuel
    | _ => conditional fuel

def conditional : Nat → Reading Expression
  | 0 => return .missing
  | fuel + 1 => do
    let a ← disjunction fuel
    if (← next?) = some (.sign "?") then
      advance
      let b ← closed (← expression fuel) ":"
      return .choice a b (← conditional fuel)
    else return a

def disjunction : Nat → Reading Expression
  | 0 => return .missing
  | fuel + 1 => do
    let a ← conjunction fuel
    if (← next?) = some (.sign "||") then
      advance
      return .either a (← disjunction fuel)
    else return a

def conjunction : Nat → Reading Expression
  | 0 => return .missing
  | fuel + 1 => do
    let a ← operand fuel
    let a ← binaryFrom a 8 fuel
    if (← next?) = some (.sign "&&") then
      advance
      return .both a (← conjunction fuel)
    else return a

def binaryFrom (left : Expression) (limit : Nat) : Nat → Reading Expression
  | 0 => return left
  | fuel + 1 => do
    match (← next?).bind binary? with
    | some op =>
      if op.rank < limit then
        advance
        let right ← operand fuel
        let right ← binaryFrom right op.rank fuel
        binaryFrom (.binary op left right) limit fuel
      else return left
    | none => return left

def operand : Nat → Reading Expression
  | 0 => return .missing
  | fuel + 1 => do
    let t ← next?
    advance
    match t with
    | some (.number z) => return .number z
    | some (.name x) => return .named x
    | some (.sign "(") => closed (← expression fuel) ")"
    | some (.sign "+") => operand fuel
    | some (.sign "-") => return .negative (← operand fuel)
    | some (.sign "!") => return .not (← operand fuel)
    | some (.sign "~") => return .complement (← operand fuel)
    | _ => return .missing

end

end Reading

def read (text : String) : Expression :=
  let ts := tokens (text.length + 1) text.toList
  let (e, rest) := (Reading.expression (8 * ts.length + 8)).run ts
  if rest.isEmpty then e else .unfinished e "EOF"

def numberOf (name : String) : Attempt Int := do
  let value := ((← get).valueOf? name).getD ""
  match Numeral.whole? none value with
  | some z => return z
  | none => throw (Numeral.refusal value)

def Expression.flaw? : Expression → Option String
  | number _ | named _ => none
  | negative a | not a | complement a | assign _ _ a => a.flaw?
  | binary _ a b | both a b | either a b => a.flaw? <|> b.flaw?
  | choice a b c => a.flaw? <|> b.flaw? <|> c.flaw?
  | missing => some "expecting primary"
  | unfinished a expected => a.flaw? <|> some ("expecting " ++ expected)

section

variable (refusal : String → String)

def skip (e : Expression) : Attempt Unit :=
  match e.flaw? with
  | some why => throw (refusal why)
  | none => return ()

def applied (op : Operator) (a b : Int) : Attempt Int :=
  match op.result? a b with
  | some z => return z
  | none => throw (refusal "division by zero")

def value : Expression → Attempt Int
  | .number z => return z
  | .named name => numberOf name
  | .negative a => return Numeral.wrap (-(← value a))
  | .not a => return if (← value a) = 0 then 1 else 0
  | .complement a => return -(← value a) - 1
  | .binary op a b => do
    applied refusal op (← value a) (← value b)
  | .both a b => do
    if (← value a) = 0 then
      skip refusal b
      return 0
    else return if (← value b) = 0 then 0 else 1
  | .either a b => do
    if (← value a) = 0 then return if (← value b) = 0 then 0 else 1
    else
      skip refusal b
      return 1
  | .choice a b c => do
    if (← value a) = 0 then
      skip refusal b
      value c
    else
      let z ← value b
      skip refusal c
      return z
  | .assign name op a => do
    let z ← value a
    let z ← match op with
      | none => pure z
      | some op => applied refusal op (← numberOf name) z
    assignVariable name (Text.Digits.signed z)
    return z
  | .missing => throw (refusal "expecting primary")
  | .unfinished a expected => do
    let _ ← value a
    throw (refusal ("expecting " ++ expected))

end

def valueOf (text : String) : Attempt Int :=
  value (fun why => "arithmetic expression: " ++ why ++ ": \"" ++ text ++ "\"") (read text)

end QualityGate.Shell.Arithmetic
