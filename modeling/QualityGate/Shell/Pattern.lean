import QualityGate.Text.Utf8

namespace QualityGate.Shell

/-- A character of a pattern, and whether it was quoted. -/
structure PatternChar where
  quoted : Bool
  char : Char
deriving DecidableEq, Repr

abbrev Pattern := List PatternChar

namespace Pattern

def text (p : Pattern) : List Char :=
  p.map PatternChar.char

def PatternChar.isSign (c : Char) (x : PatternChar) : Bool :=
  !x.quoted && x.char = c

def isOpen (p : Pattern) : Bool :=
  p.any fun x => ['*', '?', '['].any (PatternChar.isSign · x)

def bytesOf (s : String) : List Char :=
  (Text.Utf8.encode s).map fun b => Char.ofNat b.toNat

def ofBytes (cs : List Char) : String :=
  Text.Utf8.decodeLossy (cs.map fun c => UInt8.ofNat c.toNat)

def bytes (p : Pattern) : Pattern :=
  p.flatMap fun x => (bytesOf x.char.toString).map (⟨x.quoted, ·⟩)

def class? (name : String) : Option (Char → Bool) :=
  let isBlank (c : Char) : Bool := c = ' ' || c = '\t'
  let isGraph (c : Char) : Bool := '!' ≤ c && c ≤ '~'
  match name with
  | "alnum" => some Char.isAlphanum
  | "alpha" => some Char.isAlpha
  | "blank" => some isBlank
  | "cntrl" => some fun c => c < ' ' || c = '\x7f'
  | "digit" => some Char.isDigit
  | "graph" => some isGraph
  | "lower" => some Char.isLower
  | "print" => some fun c => isGraph c || c = ' '
  | "punct" => some fun c => isGraph c && !c.isAlphanum
  | "space" => some fun c => c = ' ' || ('\t' ≤ c && c ≤ '\r')
  | "upper" => some Char.isUpper
  | "xdigit" => some fun c => c.isDigit || ('a' ≤ c && c ≤ 'f') || ('A' ≤ c && c ≤ 'F')
  | _ => none

def namedClass? (p : Pattern) : Option ((Char → Bool) × Pattern) :=
  match p with
  | open_ :: colon :: rest =>
    if open_.char = '[' && colon.char = ':' then
      let name := rest.takeWhile fun x => x.char ≠ ':'
      match rest.drop name.length, class? (String.ofList (text name)) with
      | _ :: close :: rest, some test => if close.char = ']' then some (test, rest) else none
      | _, _ => none
    else none
  | _ => none

def bracketItems : Nat → Bool → Pattern → Option (List (Char → Bool) × Pattern)
  | 0, _, _ => none
  | _ + 1, _, [] => none
  | fuel + 1, first, x :: rest =>
    if PatternChar.isSign ']' x && !first then some ([], rest)
    else
      let (item, rest) := match namedClass? (x :: rest) with
        | some (test, rest) => (test, rest)
        | none =>
          match rest with
          | dash :: last :: rest' =>
            if PatternChar.isSign '-' dash && !PatternChar.isSign ']' last then
              (fun c => x.char ≤ c && c ≤ last.char, rest')
            else (fun c => c = x.char, rest)
          | _ => (fun c => c = x.char, rest)
      (bracketItems fuel false rest).map fun (items, r) => (item :: items, r)

def bracket? (p : Pattern) : Option ((Char → Bool) × Pattern) :=
  let (negated, p) := match p with
    | x :: r => if PatternChar.isSign '!' x then (true, r) else (false, p)
    | [] => (false, p)
  (bracketItems (p.length + 1) true p).map fun (items, rest) =>
    (fun c => (items.any fun test => test c) != negated, rest)

inductive Demand
  | exactly (c : Char)
  | oneOf (test : Char → Bool)
  | anything

def demandsFrom : Nat → Pattern → List Demand
  | 0, _ => []
  | _ + 1, [] => []
  | fuel + 1, x :: rest =>
    if PatternChar.isSign '*' x then .anything :: demandsFrom fuel rest
    else if PatternChar.isSign '?' x then .oneOf (fun _ => true) :: demandsFrom fuel rest
    else if PatternChar.isSign '[' x then
      match bracket? rest with
      | some (test, rest') => .oneOf test :: demandsFrom fuel rest'
      | none => .exactly x.char :: demandsFrom fuel rest
    else .exactly x.char :: demandsFrom fuel rest

def demands (p : Pattern) : List Demand :=
  let p := p.bytes
  demandsFrom (p.length + 1) p

def meets : List Demand → List Char → Bool
  | [], cs => cs.isEmpty
  | .exactly c :: ds, cs =>
    match cs with
    | x :: r => x = c && meets ds r
    | [] => false
  | .oneOf test :: ds, cs =>
    match cs with
    | x :: r => test x && meets ds r
    | [] => false
  | .anything :: ds, cs => (List.range (cs.length + 1)).any fun n => meets ds (cs.drop n)

def isMatch (p : Pattern) (s : String) : Bool :=
  meets p.demands (bytesOf s)

/-- A value without the part at its start or end that the pattern stands for, if it has one. -/
def strip? (p : Pattern) (atEnd longest : Bool) (s : String) : Option String :=
  let cs := bytesOf s
  let lengths := List.range (cs.length + 1)
  let lengths := if longest then lengths.reverse else lengths
  let part (n : Nat) := if atEnd then cs.drop (cs.length - n) else cs.take n
  let demands := p.demands
  (lengths.find? fun n => meets demands (part n)).map fun n =>
    ofBytes (if atEnd then cs.take (cs.length - n) else cs.drop n)

def strip (p : Pattern) (atEnd longest : Bool) (s : String) : String :=
  (p.strip? atEnd longest s).getD s

/-- The last of several values that the pattern stands for the end of loses it, and what comes
after that is lost. The values are those from the last one on. -/
def stripLast (p : Pattern) : List String → Option (List String)
  | [] => none
  | s :: ss =>
    match p.strip? true false s with
    | some s => some (s :: ss)
    | none => p.stripLast ss

/-- Several values that lie behind one another. The pattern never stands for a border of them, but
what is cut off may hold some. -/
def stripAll (p : Pattern) (atEnd longest : Bool) : List String → List String
  | [] => []
  | s :: ss =>
    match atEnd, longest with
    | false, false => p.strip false false s :: ss
    | false, true => if p.isMatch s then [""] else p.strip false true s :: ss
    | true, false => ((p.stripLast (s :: ss).reverse).map List.reverse).getD (s :: ss)
    | true, true => ((p.strip? true true s).map fun s => [s]).getD (s :: ss)

end Pattern
end QualityGate.Shell
