import QualityGate.Json.Basic
import QualityGate.Json.Scan

namespace QualityGate.Json

def memberName (cs : List Char) : Scan String :=
  match cs with
  | '"' :: cs =>
    match stringText cs with
    | .error flaw => .error flaw
    | .ok (name, cs) =>
      match skipSpace cs with
      | [] => failHere .unfinishedObject []
      | ':' :: cs => .ok (name, cs)
      | cs => failNext .expectedColon cs
  | cs => failNext .keyNotString cs

def ofNumeral : Numeral → Json
  | .integer z => integer z
  | .real x => real x

mutual

def value : Nat → List Char → Scan Json
  | 0, cs => failHere .unfinishedValue cs
  | fuel + 1, cs =>
    match skipSpace cs with
    | [] => failHere .unfinishedValue []
    | '"' :: cs => (stringText cs).map fun r => (string r.1, r.2)
    | '[' :: cs =>
      match skipSpace cs with
      | [] => failHere .unfinishedList []
      | ']' :: cs => .ok (array [], cs)
      | cs => items fuel [] cs
    | '\x7b' :: cs =>
      match skipSpace cs with
      | [] => failHere .unfinishedObject []
      | '\x7d' :: cs => .ok (object [], cs)
      | cs => members fuel [] cs
    | 'n' :: cs => (skipWord ['u', 'l', 'l'] cs).map (null, ·)
    | 't' :: cs => (skipWord ['r', 'u', 'e'] cs).map (bool true, ·)
    | 'f' :: cs => (skipWord ['a', 'l', 's', 'e'] cs).map (bool false, ·)
    | '-' :: cs => (number true cs).map fun r => (ofNumeral r.1, r.2)
    | c :: cs =>
      if c.isDigit then (number false (c :: cs)).map fun r => (ofNumeral r.1, r.2)
      else failNext .expectedValue (c :: cs)

/-- The items of an array from the next one on, with those before them in reverse. -/
def items : Nat → List Json → List Char → Scan Json
  | 0, _, cs => failHere .unfinishedValue cs
  | fuel + 1, before, cs =>
    match value fuel cs with
    | .error flaw => .error flaw
    | .ok (item, cs) =>
      match skipSpace cs with
      | [] => failHere .unfinishedList []
      | ']' :: cs => .ok (array (item :: before).reverse, cs)
      | ',' :: cs =>
        match skipSpace cs with
        | ']' :: cs => failNext .trailingComma (']' :: cs)
        | cs => items fuel (item :: before) cs
      | cs => failNext .expectedListEnd cs

/-- The members of an object from the next one on, with those before them in reverse. -/
def members : Nat → List (String × Json) → List Char → Scan Json
  | 0, _, cs => failHere .unfinishedValue cs
  | fuel + 1, before, cs =>
    match memberName cs with
    | .error flaw => .error flaw
    | .ok (name, cs) =>
      match value fuel cs with
      | .error flaw => .error flaw
      | .ok (item, cs) =>
        match skipSpace cs with
        | [] => failHere .unfinishedObject []
        | '\x7d' :: cs => .ok (ofMembers ((name, item) :: before).reverse, cs)
        | ',' :: cs =>
          match skipSpace cs with
          | [] => failHere .unfinishedValue []
          | '\x7d' :: cs => failNext .trailingComma ('\x7d' :: cs)
          | cs => members fuel ((name, item) :: before) cs
        | cs => failNext .expectedObjectEnd cs

end

def atEnd {α : Type} (r : α × List Char) : Except (Flaw Defect) α :=
  match skipSpace r.2 with
  | [] => .ok r.1
  | cs => failNext .trailingCharacters cs

def parse (text : String) : Except (Flaw Defect) Json :=
  value (2 * text.length + 2) text.toList >>= atEnd

end QualityGate.Json
