import QualityGate.Settings.Value
import QualityGate.Text.Blank

namespace QualityGate.Environment

open Text.Digits

def isSpace (c : Char) : Bool :=
  c = ' ' || c = '\t' || c = '\n' || c = '\r' || c = '\x0C'

def skipSpace (cs : List Char) : List Char :=
  cs.dropWhile isSpace

def isSeparator (c : Char) : Bool :=
  [',', '\x7b', '\x7d', '[', ']'].contains c

def bareWord (cs : List Char) : Scalar :=
  let word := Text.Blank.trim cs
  let unsigned := match word with
    | '+' :: ds => natural? 10 ds
    | ds => natural? 10 ds
  let negative := match word with
    | '-' :: ds => natural? 10 ds
    | _ => none
  let real := if word.contains '.' then Number.Notation.double? word else none
  match real, unsigned, negative with
  | some x, _, _ => .real x
  | none, some n, _ => if n < Nat.pow 2 64 then .integer n else .text (String.ofList word)
  | none, none, some 0 => .minusZero
  | none, none, some n => if n ≤ Nat.pow 2 63 then .integer (-n) else .text (String.ofList word)
  | none, none, none => .text (String.ofList word)

def code? (count : Nat) (cs : List Char) : Option (Char × List Char) := do
  let n ← natural? 16 (cs.take count)
  if (cs.take count).length = count && n.isValidChar then
    return (Char.ofNat n, cs.drop count)
  else none

def escape? : List Char → Option (Char × List Char)
  | 'b' :: cs => some ('\x08', cs)
  | 't' :: cs => some ('\t', cs)
  | 'n' :: cs => some ('\n', cs)
  | 'f' :: cs => some ('\x0C', cs)
  | 'r' :: cs => some ('\r', cs)
  | '"' :: cs => some ('"', cs)
  | '\\' :: cs => some ('\\', cs)
  | 'u' :: cs => code? 4 cs
  | 'U' :: cs => code? 8 cs
  | _ => none

def isQuotable (c : Char) : Bool :=
  (' ' ≤ c && c ≠ '\x7F') || c = '\t'

def quoted? : Nat → List Char → List Char → Option (String × List Char)
  | 0, _, _ => none
  | _ + 1, _, [] => none
  | _ + 1, before, '"' :: cs => some (String.ofList before.reverse, cs)
  | fuel + 1, before, '\\' :: cs => do
    let (c, cs) ← escape? cs
    quoted? fuel (c :: before) cs
  | fuel + 1, before, c :: cs => if isQuotable c then quoted? fuel (c :: before) cs else none

def name? (cs : List Char) : Option (String × List Char) :=
  match cs with
  | '"' :: cs => quoted? (cs.length + 1) [] cs
  | cs =>
    let name := cs.takeWhile Yaml.isWordChar
    if name.isEmpty then none else some (String.ofList name, cs.drop name.length)

def leaf (s : Scalar) : Setting :=
  .leaf .environment s

mutual

def value? : Nat → List Char → Option (Setting × List Char)
  | 0, _ => none
  | fuel + 1, cs =>
    let done (r : Setting × List Char) := (r.1, skipSpace r.2)
    match skipSpace cs with
    | 't' :: 'r' :: 'u' :: 'e' :: cs => some (leaf (.flag true), skipSpace cs)
    | 'f' :: 'a' :: 'l' :: 's' :: 'e' :: cs => some (leaf (.flag false), skipSpace cs)
    | '\x7b' :: cs => (members? fuel [] cs).map done
    | '[' :: cs => (items? fuel [] cs).map done
    | '"' :: cs => (quoted? (cs.length + 1) [] cs).map fun r => done (leaf (.text r.1), r.2)
    | '\'' :: c :: '\'' :: cs => some (leaf (.char c), skipSpace cs)
    | '\'' :: _ => none
    | cs =>
      let word := cs.takeWhile (!isSeparator ·)
      some (leaf (bareWord word), skipSpace (cs.drop word.length))

def items? : Nat → List Setting → List Char → Option (Setting × List Char)
  | 0, _, _ => none
  | fuel + 1, before, cs =>
    match cs with
    | ']' :: cs => some (.list .environment before.reverse, cs)
    | cs => do
      let (item, cs) ← value? fuel cs
      match cs with
      | ',' :: cs => items? fuel (item :: before) cs
      | ']' :: cs => some (.list .environment (item :: before).reverse, cs)
      | _ => none

def members? : Nat → List (String × Setting) → List Char → Option (Setting × List Char)
  | 0, _, _ => none
  | fuel + 1, before, cs =>
    match cs with
    | '\x7d' :: cs => some (.group .environment (Members.arrange before.reverse), cs)
    | cs => do
      let (name, cs) ← name? (skipSpace cs)
      match skipSpace cs with
      | '=' :: cs =>
        let (value, cs) ← value? fuel cs
        match cs with
        | ',' :: cs => members? fuel ((name, value) :: before) cs
        | '\x7d' :: cs =>
          some (.group .environment (Members.arrange ((name, value) :: before).reverse), cs)
        | _ => none
      | _ => none

end

def ofText (s : String) : Setting :=
  match value? (2 * s.length + 2) s.toList with
  | some (v, []) => v
  | _ => leaf (.text s)

def start : String := "QUALITY_HOOK_"

def dotted : List Char → List Char
  | '_' :: '_' :: cs => '.' :: dotted cs
  | c :: cs => c :: dotted cs
  | [] => []

def segments : List Char → List (List Char)
  | [] => [[]]
  | c :: cs =>
    if c = '.' then [] :: segments cs
    else match segments cs with
      | [] => [[c]]
      | s :: ss => (c :: s) :: ss

def path? (variableName : String) : Option (List String) :=
  let cs := Text.Blank.trim variableName.toList
  let lower := cs.map Char.toLower
  if (start.toList.map Char.toLower).isPrefixOf lower then
    let steps := segments (dotted (Text.Blank.trim (lower.drop start.length)))
    if steps.any List.isEmpty then none else some (steps.map String.ofList)
  else none

def nest : List String → Setting → Setting
  | [], v => v
  | step :: path, v => .group .environment [(step, nest path v)]

def layer (environment : List (String × String)) : Setting :=
  (Members.arrange environment).foldl (fun s v =>
    match path? v.1 with
    | some path => s.merge (nest path (ofText v.2))
    | none => s) (.nothing .environment)

end QualityGate.Environment
