import QualityGate.Json.Scan

namespace QualityGate.Json

inductive Bracket
  | list
  | object
deriving DecidableEq, Repr

namespace Bracket

def closing : Bracket → Char
  | list => ']'
  | object => '\x7d'

def unfinished : Bracket → Defect
  | list => .unfinishedList
  | object => .unfinishedObject

def expectedEnd : Bracket → Defect
  | list => .expectedListEnd
  | object => .expectedObjectEnd

end Bracket

mutual

def skipItem : Nat → List Bracket → List Char → Except (Flaw Defect) (List Char)
  | 0, _, cs => failHere .unfinishedValue cs
  | fuel + 1, stack, cs =>
    match skipSpace cs with
    | [] => failHere .unfinishedValue []
    | '"' :: cs => skipString cs >>= skipAfter fuel stack
    | '[' :: cs =>
      match skipSpace cs with
      | [] => failHere .unfinishedList []
      | ']' :: cs => skipAfter fuel stack cs
      | cs => skipItem fuel (.list :: stack) cs
    | '\x7b' :: cs =>
      match skipSpace cs with
      | [] => failHere .unfinishedObject []
      | '\x7d' :: cs => skipAfter fuel stack cs
      | cs => skipMember fuel (.object :: stack) cs
    | 'n' :: cs => skipWord ['u', 'l', 'l'] cs >>= skipAfter fuel stack
    | 't' :: cs => skipWord ['r', 'u', 'e'] cs >>= skipAfter fuel stack
    | 'f' :: cs => skipWord ['a', 'l', 's', 'e'] cs >>= skipAfter fuel stack
    | '-' :: cs => skipNumber cs >>= skipAfter fuel stack
    | c :: cs =>
      if c.isDigit then skipNumber (c :: cs) >>= skipAfter fuel stack
      else failNext .expectedValue (c :: cs)

def skipAfter : Nat → List Bracket → List Char → Except (Flaw Defect) (List Char)
  | _, [], cs => .ok cs
  | 0, _ :: _, cs => failHere .unfinishedValue cs
  | fuel + 1, bracket :: stack, cs =>
    match skipSpace cs with
    | [] => failHere bracket.unfinished []
    | c :: cs =>
      if c = ',' then
        match bracket with
        | .list => skipItem fuel (bracket :: stack) cs
        | .object => skipMember fuel (bracket :: stack) cs
      else if c = bracket.closing then skipAfter fuel stack cs
      else failNext bracket.expectedEnd (c :: cs)

def skipMember : Nat → List Bracket → List Char → Except (Flaw Defect) (List Char)
  | 0, _, cs => failHere .unfinishedValue cs
  | fuel + 1, stack, cs =>
    match skipSpace cs with
    | [] => failHere .unfinishedObject []
    | '"' :: cs => do
      let cs ← skipString cs
      match skipSpace cs with
      | [] => failHere .unfinishedObject []
      | ':' :: cs => skipItem fuel stack cs
      | cs => failNext .expectedColon cs
    | cs => failNext .keyNotString cs

end

/-- One value is skipped. Each step consumes a character, except that a value may be followed by
none. -/
def skipValue (cs : List Char) : Except (Flaw Defect) (List Char) :=
  skipItem (2 * cs.length + 2) [] cs

end QualityGate.Json
