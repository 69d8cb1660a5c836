import QualityGate.Shell.Session

namespace QualityGate.Shell.Condition

def entryAt? (s : Session) (path : String) : Option Entry :=
  match s.tree.locate s.cwd path with
  | .ok place => s.tree.find? place
  | .error _ => none

def unaryOperators : List String :=
  ["-r", "-w", "-x", "-e", "-f", "-d", "-c", "-b", "-p", "-u", "-g", "-k", "-s", "-t", "-z", "-n",
    "-h", "-O", "-G", "-L", "-S"]

def binaryOperators : List String :=
  ["=", "!=", "<", ">", "-eq", "-ne", "-ge", "-gt", "-le", "-lt", "-nt", "-ot", "-ef"]

def numberOf (w : String) : Except String Int :=
  match Numeral.whole? (some 10) w with
  | some z => .ok z
  | none => .error (Numeral.refusal w)

def unary (s : Session) (operator word : String) : Except String Bool :=
  let isDevice := word = Session.nullDevice || (Session.ownDescriptor? word).isSome
  let ofEntry (device : Bool) (test : Entry → Bool) : Except String Bool :=
    .ok ((isDevice && device) || (entryAt? s word).any test)
  match operator with
  | "-n" => .ok !word.isEmpty
  | "-z" => .ok word.isEmpty
  | "-t" => (numberOf word).map fun _ => false
  | "-e" | "-r" | "-w" | "-O" | "-G" => ofEntry true fun _ => true
  | "-f" => ofEntry false fun
    | .file _ => true
    | .directory => false
  | "-d" | "-x" => ofEntry false fun
    | .file _ => false
    | .directory => true
  | "-s" => ofEntry false fun
    | .file bytes => !bytes.isEmpty
    | .directory => true
  | "-c" => .ok (word = Session.nullDevice)
  | _ => .ok false

def binary (s : Session) (a operator b : String) : Except String Bool := do
  let compared (test : Int → Int → Bool) : Except String Bool := do
    return test (← numberOf a) (← numberOf b)
  match operator with
  | "=" => return a = b
  | "!=" => return a ≠ b
  | "<" => return a < b
  | ">" => return b < a
  | "-eq" => compared (· == ·)
  | "-ne" => compared (· != ·)
  | "-ge" => compared (· ≥ ·)
  | "-gt" => compared (· > ·)
  | "-le" => compared (· ≤ ·)
  | "-lt" => compared (· < ·)
  | "-ef" =>
    match s.tree.locate s.cwd a, s.tree.locate s.cwd b with
    | .ok p, .ok q => return p = q && (s.tree.find? p).isSome
    | _, _ => return false
  | _ => return false

/-- A letter after a dash is a word like others if there is nothing behind it that it could be for,
or if it stands before a binary operator. -/
def isOperand : List String → Bool
  | [] | [_] => true
  | [_, _] => false
  | _ :: next :: _ :: _ => binaryOperators.contains next

inductive Role
  | ending
  | operand
  | unary
  | binary
  | not
  | and
  | or
  | opening
  | closing
deriving DecidableEq

def roleOf (ws : List String) : Role :=
  match ws with
  | [] => .ending
  | w :: rest =>
    if unaryOperators.contains w then if isOperand ws then .operand else .unary
    else if binaryOperators.contains w then .binary
    else match w with
      | "!" => .not
      | "-a" => .and
      | "-o" => .or
      | "(" => if rest.isEmpty then .operand else .opening
      | ")" => .closing
      | _ => .operand

section

variable (s : Session)

mutual

/-- Alternatives. The words that are given back start with the last one that was used. -/
def alternatives (start : Role) (ws : List String) : Nat → Except String (Bool × List String)
  | 0 => .ok (false, ws)
  | fuel + 1 => do
    let (a, ws) ← conjunction start ws fuel
    if roleOf ws.tail = .or then
      let ws := ws.drop 2
      let (b, ws) ← alternatives (roleOf ws) ws fuel
      return (a || b, ws)
    else return (a, ws)

def conjunction (start : Role) (ws : List String) : Nat → Except String (Bool × List String)
  | 0 => .ok (false, ws)
  | fuel + 1 => do
    let (a, ws) ← negation start ws fuel
    if roleOf ws.tail = .and then
      let ws := ws.drop 2
      let (b, ws) ← conjunction (roleOf ws) ws fuel
      return (a && b, ws)
    else return (a, ws)

def negation (start : Role) (ws : List String) : Nat → Except String (Bool × List String)
  | 0 => .ok (false, ws)
  | fuel + 1 => do
    if start = .not then
      let next := roleOf ws.tail
      let (a, ws) ← negation next (if next = .ending then ws else ws.tail) fuel
      return (!a, ws)
    else primary start ws fuel

def primary (start : Role) (ws : List String) : Nat → Except String (Bool × List String)
  | 0 => .ok (false, ws)
  | fuel + 1 => do
    match start, ws with
    | .ending, _ => return (false, ws)
    | .opening, _ =>
      let ws := ws.tail
      let next := roleOf ws
      if next = .closing then return (false, ws)
      else
        let (a, ws) ← alternatives next ws fuel
        let ws := ws.tail
        if roleOf ws = .closing then return (a, ws) else throw "closing paren expected"
    | .unary, operator :: word :: rest => return (← unary s operator word, word :: rest)
    | _, a :: operator :: rest =>
      if roleOf (operator :: rest) = .binary then
        match rest with
        | b :: rest => return (← binary s a operator b, b :: rest)
        | [] => throw (operator ++ ": argument expected")
      else return (!a.isEmpty, ws)
    | _, [a] => return (!a.isEmpty, ws)
    | _, [] => return (false, [])

end

def holdsFrom (start : Role) (ws : List String) : Except String Bool := do
  let (a, ws) ← alternatives s start ws (4 * ws.length + 4)
  match ws with
  | w :: _ :: _ => throw (w ++ ": unexpected operator")
  | _ => return a

def holds : Nat → List String → Except String Bool
  | 0, _ => .ok false
  | _ + 1, [] => .ok false
  | fuel + 1, w :: rest => do
    let ws := w :: rest
    if ws.length = 3 && (ws[1]?.any binaryOperators.contains) then holdsFrom s .operand ws
    else if ws.length = 3 || ws.length = 4 then
      if w = "(" && ws.getLast? = some ")" then holds fuel rest.dropLast
      else if w = "!" then return !(← holds fuel rest)
      else holdsFrom s (roleOf ws) ws
    else holdsFrom s (roleOf ws) ws

end

end QualityGate.Shell.Condition
