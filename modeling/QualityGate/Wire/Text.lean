import QualityGate.Json.Skip
import QualityGate.Wire.Form
import QualityGate.Wire.Mismatch

namespace QualityGate.Wire

open Json (Flaw Defect failHere failNext skipSpace)

inductive Cause
  | defect (d : Defect)
  | mismatch (m : Mismatch)
deriving Repr

def Cause.message : Cause → String
  | defect d => d.message
  | mismatch m => m.message .json

abbrev Reading (α : Type) := Except (Flaw Cause) α

variable {α β σ : Type}

def ofScan : Except (Flaw Defect) α → Reading α
  | .ok a => .ok a
  | .error f => .error ⟨.defect f.cause, f.rest, f.ahead⟩

def mismatchHere (m : Mismatch) (rest : List Char) : Reading α :=
  failHere (.mismatch m) rest

/-- The value that starts here is of another type. Numbers, strings and words are read to tell
what they are, and a flaw in them comes first. -/
def otherType (expected : String) (cs : List Char) : Reading α :=
  let tell (found : Found) (rest : List Char) : Reading α :=
    mismatchHere (.invalidType found expected) rest
  let numeral (r : Json.Numeral × List Char) : Reading α :=
    match r.1 with
    | .integer z => tell (.integer z) r.2
    | .real x => tell (.real x) r.2
  match cs with
  | [] => failHere (.defect .unfinishedValue) []
  | 'n' :: cs => ofScan (Json.skipWord ['u', 'l', 'l'] cs) >>= tell .null
  | 't' :: cs => ofScan (Json.skipWord ['r', 'u', 'e'] cs) >>= tell (.flag true)
  | 'f' :: cs => ofScan (Json.skipWord ['a', 'l', 's', 'e'] cs) >>= tell (.flag false)
  | '-' :: cs => ofScan (Json.number true cs) >>= numeral
  | '"' :: cs => ofScan (Json.stringText cs) >>= fun r => tell (.text r.1) r.2
  | '[' :: cs => tell .list ('[' :: cs)
  | '\x7b' :: cs => tell .map ('\x7b' :: cs)
  | c :: cs =>
    if c.isDigit then ofScan (Json.number false (c :: cs)) >>= numeral
    else failNext (.defect .expectedValue) (c :: cs)

def readText (cs : List Char) : Reading (String × List Char) :=
  match skipSpace cs with
  | '"' :: cs => ofScan (Json.stringText cs)
  | cs => otherType "a string" cs

def readFlag (cs : List Char) : Reading (Bool × List Char) :=
  match skipSpace cs with
  | 't' :: cs => ofScan (Json.skipWord ['r', 'u', 'e'] cs) >>= fun rest => .ok (true, rest)
  | 'f' :: cs => ofScan (Json.skipWord ['a', 'l', 's', 'e'] cs) >>= fun rest => .ok (false, rest)
  | cs => otherType "a boolean" cs

def readInteger (low high : Int) (expected : String) (cs : List Char) :
    Reading (Int × List Char) :=
  let check (r : Json.Numeral × List Char) : Reading (Int × List Char) :=
    match r.1 with
    | .integer z =>
      if low ≤ z ∧ z ≤ high then .ok (z, r.2)
      else mismatchHere (.invalidValue (.integer z) expected) r.2
    | .real x => mismatchHere (.invalidType (.real x) expected) r.2
  match skipSpace cs with
  | '-' :: cs => ofScan (Json.number true cs) >>= check
  | cs =>
    if Json.startsWithDigit cs then ofScan (Json.number false cs) >>= check
    else otherType expected cs

def readChoice (choices : List α) (name : α → String) (cs : List Char) :
    Reading (α × List Char) := do
  let (s, rest) ← readText cs
  match choices.find? (name · == s) with
  | some a => .ok (a, rest)
  | none => mismatchHere (.unknownVariant s (choices.map name)) rest

def nextItem (first : Bool) (cs : List Char) : Reading (Option (List Char)) :=
  match skipSpace cs with
  | [] => failHere (.defect .unfinishedList) []
  | ']' :: _ => .ok none
  | c :: cs =>
    if first then .ok (some (c :: cs))
    else if c = ',' then
      match skipSpace cs with
      | [] => failHere (.defect .unfinishedValue) []
      | ']' :: cs => failNext (.defect .trailingComma) (']' :: cs)
      | cs => .ok (some cs)
    else failNext (.defect .expectedListEnd) (c :: cs)

def endList (cs : List Char) : Reading (List Char) :=
  match skipSpace cs with
  | [] => failHere (.defect .unfinishedList) []
  | ']' :: cs => .ok cs
  | ',' :: cs =>
    match skipSpace cs with
    | ']' :: cs => failNext (.defect .trailingComma) (']' :: cs)
    | cs => failNext (.defect .trailingCharacters) cs
  | cs => failNext (.defect .trailingCharacters) cs

def readItems (read : List Char → Reading (α × List Char)) :
    Nat → List α → List Char → Reading (List α × List Char)
  | 0, _, cs => failHere (.defect .unfinishedList) cs
  | fuel + 1, before, cs =>
    match nextItem before.isEmpty cs with
    | .error flaw => .error flaw
    | .ok none => .ok (before.reverse, (skipSpace cs).tail)
    | .ok (some cs) =>
      match read cs with
      | .error flaw => .error flaw
      | .ok (a, cs) => readItems read fuel (a :: before) cs

/-- The quoted name of the next member of an object, without its colon, or the object's end. -/
def nextName (first : Bool) (cs : List Char) : Reading (Option String × List Char) :=
  let name (cs : List Char) : Reading (Option String × List Char) :=
    match cs with
    | '"' :: cs => ofScan (Json.stringText cs) >>= fun r => .ok (some r.1, r.2)
    | cs => failNext (.defect .keyNotString) cs
  match skipSpace cs with
  | [] => failHere (.defect .unfinishedObject) []
  | '\x7d' :: cs => .ok (none, cs)
  | c :: cs =>
    if first then name (c :: cs)
    else if c = ',' then
      match skipSpace cs with
      | [] => failHere (.defect .unfinishedValue) []
      | '\x7d' :: cs => failNext (.defect .trailingComma) ('\x7d' :: cs)
      | cs => name cs
    else failNext (.defect .expectedObjectEnd) (c :: cs)

def skipColon (cs : List Char) : Reading (List Char) :=
  match skipSpace cs with
  | [] => failHere (.defect .unfinishedObject) []
  | ':' :: cs => .ok cs
  | cs => failNext (.defect .expectedColon) cs

/-- A key for the second time; the flaw is placed before what follows the key, or after it where
the object ends there. -/
def duplicate (key : String) (cs : List Char) : Reading α :=
  match skipSpace cs with
  | '\x7d' :: cs => mismatchHere (.duplicateField key) cs
  | cs => mismatchHere (.duplicateField key) cs

def readMembers (read : String → σ → List Char → Reading (σ × List Char)) :
    Nat → Bool → σ → List Char → Reading (σ × List Char)
  | 0, _, _, cs => failHere (.defect .unfinishedObject) cs
  | fuel + 1, first, values, cs =>
    match nextName first cs with
    | .error flaw => .error flaw
    | .ok (none, cs) => .ok (values, cs)
    | .ok (some name, cs) =>
      match read name values cs with
      | .error flaw => .error flaw
      | .ok (values, cs) => readMembers read fuel false values cs

namespace Form

mutual

def read : {α : Type} → Form α → List Char → Reading (α × List Char)
  | _, text, cs => readText cs
  | _, flag, cs => readFlag cs
  | _, word64, cs =>
    (readInteger 0 (Int.pow 2 64 - 1) "u64" cs).map fun r => (.ofNat r.1.toNat, r.2)
  | _, int32, cs =>
    (readInteger (-Int.pow 2 31) (Int.pow 2 31 - 1) "i32" cs).map fun r => (.ofInt r.1, r.2)
  | _, oneOf choices name _, cs => readChoice choices name cs
  | _, optional form, cs =>
    match skipSpace cs with
    | 'n' :: cs => ofScan (Json.skipWord ['u', 'l', 'l'] cs) >>= fun rest => .ok (none, rest)
    | cs => (read form cs).map fun r => (some r.1, r.2)
  | _, list form, cs =>
    match skipSpace cs with
    | '[' :: cs => readItems (read form) (cs.length + 1) [] cs
    | cs => otherType "a sequence" cs
  | _, record name fields ofParts _ _, cs =>
    match skipSpace cs with
    | '\x7b' :: cs =>
      match readMembers (readMember fields) (cs.length + 1) true fields.none cs with
      | .error flaw => .error flaw
      | .ok (values, rest) =>
        match fields.complete values with
        | .ok parts => .ok (ofParts parts, rest)
        | .error key => mismatchHere (.missingField key) rest
    | '[' :: cs =>
      match readPositions fields (recordLength name fields.keys.length) 0 cs with
      | .error flaw => .error flaw
      | .ok (parts, rest) => (endList rest).map fun rest => (ofParts parts, rest)
    | cs => otherType (recordName name) cs

def readMember : {β σ : Type} → Fields β σ → String → σ → List Char → Reading (σ × List Char)
  | _, _, .nil, _, values, cs => do
    let cs ← skipColon cs
    let cs ← ofScan (Json.skipValue cs)
    return (values, cs)
  | _, _, .cons key form _ rest, k, (value, values), cs =>
    if key = k then
      if value.isSome then duplicate key cs
      else do
        let cs ← skipColon cs
        let (a, cs) ← read form cs
        return ((some a, values), cs)
    else (readMember rest k values cs).map fun r => ((value, r.1), r.2)

/-- The fields from a list in their order; a flaw of the list's length is placed after its end. -/
def readPositions : {β σ : Type} → Fields β σ → String → Nat → List Char →
    Reading (β × List Char)
  | _, _, .nil, _, _, cs => .ok ((), cs)
  | _, _, .cons _ form presence rest, expected, index, cs => do
    match ← nextItem (index == 0) cs with
    | some cs =>
      let (a, cs) ← read form cs
      let (values, cs) ← readPositions rest expected (index + 1) cs
      return ((a, values), cs)
    | none =>
      match presence.absent with
      | some a =>
        let (values, cs) ← readPositions rest expected (index + 1) cs
        return ((a, values), cs)
      | none => mismatchHere (.invalidLength index expected) (skipSpace cs).tail

end

def ofText {α : Type} (form : Form α) (text : String) : Except String α :=
  let read : Reading α := do
    let (a, rest) ← form.read text.toList
    match skipSpace rest with
    | [] => .ok a
    | cs => failNext (.defect .trailingCharacters) cs
  read.mapError fun flaw => flaw.cause.message ++ (flaw.position text).message

end Form
end QualityGate.Wire
