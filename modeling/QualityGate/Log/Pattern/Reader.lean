import QualityGate.Log.Pattern.Basic

namespace QualityGate.Log.Pattern

/-- How what follows in a pattern is meant. -/
structure Flags where
  anyCase : Bool
  /-- Lines in the text have edges, too. -/
  manyLines : Bool
  dotIsAll : Bool
  /-- Carriage returns end lines. -/
  returns : Bool
  /-- Repetitions are as short as possible unless a mark says otherwise. -/
  swapped : Bool
  /-- Sets are those of all scripts, not of ASCII. -/
  allScripts : Bool
  /-- Blanks and comments do not count. -/
  spaced : Bool

namespace Flags

def plain : Flags :=
  ⟨false, false, false, false, false, true, false⟩

def set? (f : Flags) (value : Bool) (letter : Char) : Option Flags :=
  match letter with
  | 'i' => some { f with anyCase := value }
  | 'm' => some { f with manyLines := value }
  | 's' => some { f with dotIsAll := value }
  | 'R' => some { f with returns := value }
  | 'U' => some { f with swapped := value }
  | 'u' => some { f with allScripts := value }
  | 'x' => some { f with spaced := value }
  | _ => none

/-- Letters set flags, and those after a dash clear them. No sign may come twice, and the dash not
last. -/
def changed? (f : Flags) (value : Bool) (seen : List Char) : List Char → Option Flags
  | [] => some f
  | c :: cs =>
    if seen.contains c then none
    else if c = '-' then if cs.isEmpty then none else f.changed? false (c :: seen) cs
    else (f.set? value c).bind fun f => f.changed? value (c :: seen) cs

/-- A set as the flags want it, or all that is not in it. Without regard to other scripts there is
no such complement, because characters are more than a byte then. -/
def adapted? (f : Flags) (negated : Bool) (s : CharSet) : Option CharSet :=
  let s := if f.anyCase then .anyCase (!f.allScripts) s else s
  if !negated then some s else if f.allScripts then some (.complement s) else none

end Flags

structure Reader where
  rest : List Char
  flags : Flags
  /-- The names of the groups so far. -/
  names : List String
  /-- The edges of words of all scripts matter. -/
  seesWords : Bool

abbrev Reading := StateT Reader Option

/-- Something written, and how deep its parts lie in one another. -/
structure Nested (α : Type) where
  value : α
  depth : Nat

namespace Nested

def limit : Nat := 250

def leaf {α : Type} (a : α) : Nested α := ⟨a, 0⟩

def wrap {α : Type} (f : α → α) (x : Nested α) : Nested α := ⟨f x.value, x.depth + 1⟩

def gather {α : Type} (f : List α → α) : List (Nested α) → Nested α
  | [] => leaf (f [])
  | [x] => x
  | xs => ⟨f (xs.map Nested.value), (xs.map Nested.depth).foldl max 0 + 1⟩

end Nested

inductive Escape
  | char (c : Char)
  /-- A character by two digits, which is a byte without regard to other scripts. -/
  | byte (c : Char)
  | set (s : CharSet)
  | edge (e : Edge)

inductive Junction
  | inter
  | difference
  | oneOnly

def Junction.sets : Junction → CharSet → CharSet → CharSet
  | inter => .inter
  | difference => .difference
  | oneOnly => .oneOnly

namespace Reading

def look : Reading (Option Char) := do
  return (← get).rest.head?

def lookTwo : Reading (Option Char × Option Char) := do
  let cs := (← get).rest
  return (cs.head?, cs.tail.head?)

def flags : Reading Flags := do
  return (← get).flags

def skip : Reading Unit :=
  modify fun r => { r with rest := r.rest.tail }

def skipText (text : String) : Reading Bool := do
  let r ← get
  if text.toList.isPrefixOf r.rest then
    set { r with rest := r.rest.drop text.length }
    return true
  else return false

def withoutBlanks (inComment : Bool) : List Char → List Char
  | [] => []
  | c :: cs =>
    if inComment then withoutBlanks (c ≠ '\n') cs
    else if Text.Blank.isBlank c then withoutBlanks false cs
    else if c = '#' then withoutBlanks true cs
    else c :: cs

def skipBlanks : Reading Unit :=
  modify fun r => if r.flags.spaced then { r with rest := withoutBlanks false r.rest } else r

def advance : Reading Char := do
  skip
  skipBlanks
  (← look : Option Char)

/-- The sign that comes after this one and blanks. Of a comment the start is looked at. -/
def lookBehind : Reading (Option Char) := do
  let r ← get
  let cs := r.rest.tail
  if !r.flags.spaced then return cs.head?
  else
    match cs.dropWhile Text.Blank.isBlank with
    | '#' :: comment => return (comment.dropWhile Text.Blank.isBlank).head? <|> cs.head?
    | c :: _ => return some c
    | [] => return cs.head?

def digits (n : Nat) : Nat → Reading Nat
  | 0 => return n
  | count + 1 => do
    let d ← ((← look).bind (Text.Digits.valueIn? 16) : Option Nat)
    skip
    skipBlanks
    digits (16 * n + d) count

def codePoint (count : Nat) : Reading Char := do
  let _ ← advance
  let n ← digits 0 count
  if n.isValidChar then return Char.ofNat n else failure

def category (negated : Bool) : Reading Escape := do
  let c ← advance
  skip
  skipBlanks
  let f ← flags
  let k ← (Text.Category.ofInitial? c : Option Text.Category)
  if !f.allScripts then failure
  return .set (← (f.adapted? negated (.category k) : Option CharSet))

def known (negated : Bool) (ofAll ofAscii : CharSet) : Reading Escape := do
  skip
  if (← flags).allScripts then return .set (if negated then .complement ofAll else ofAll)
  else if negated then failure
  else return .set ofAscii

def wordEdge (e : Edge) : Reading Escape := do
  skip
  modify fun r => { r with seesWords := r.seesWords || r.flags.allScripts }
  return .edge e

def escape : Reading Escape := do
  let c ← (← look : Option Char)
  let char (d : Char) : Reading Escape := do
    skip
    return .char d
  let edge (e : Edge) : Reading Escape := do
    skip
    return .edge e
  match c with
  | 'x' => return .byte (← codePoint 2)
  | 'u' => return .char (← codePoint 4)
  | 'U' => return .char (← codePoint 8)
  | 'p' => category false
  | 'P' => category true
  | 'd' => known false .digit .asciiDigit
  | 'D' => known true .digit .asciiDigit
  | 's' => known false .blank .asciiBlank
  | 'S' => known true .blank .asciiBlank
  | 'w' => known false .word .asciiWord
  | 'W' => known true .word .asciiWord
  | 'a' => char '\x07'
  | 'f' => char '\x0c'
  | 't' => char '\t'
  | 'n' => char '\n'
  | 'r' => char '\r'
  | 'v' => char '\x0b'
  | 'A' => edge .textStart
  | 'z' => edge .textEnd
  | 'b' => wordEdge .wordEdge
  | 'B' => wordEdge .noWordEdge
  | '<' => wordEdge .wordStart
  | '>' => wordEdge .wordEnd
  | _ => if c.isAlphanum || 0x80 ≤ c.toNat then failure else char c

def isAscii (c : Char) : Bool :=
  c.toNat < 0x80

def member : Reading (Char ⊕ CharSet) := do
  let allScripts := (← flags).allScripts
  let literal (c : Char) : Reading (Char ⊕ CharSet) :=
    if allScripts || isAscii c then return .inl c else failure
  let c ← (← look : Option Char)
  skip
  if c ≠ '\\' then literal c
  else
    match ← escape with
    | .char c | .byte c => literal c
    | .set s => return .inr s
    | .edge _ => failure

def members : Reading CharSet := do
  let low ← member
  skipBlanks
  let next ← (← look : Option Char)
  let behind ← lookBehind
  if next ≠ '-' || behind = some ']' || behind = some '-' then
    return low.elim CharSet.single id
  else
    let _ ← advance
    match low, ← member with
    | .inl low, .inl high => if low ≤ high then return .range low high else failure
    | _, _ => failure

def dashes : Nat → Reading Nat
  | 0 => return 0
  | fuel + 1 => do
    if (← look) = some '-' then
      let _ ← advance
      return (← dashes fuel) + 1
    else return 0

def named? : List Char → Option (CharSet × Bool × List Char)
  | '[' :: ':' :: cs =>
    let (negated, cs) := match cs with
      | '^' :: cs => (true, cs)
      | cs => (false, cs)
    let name := cs.takeWhile (· ≠ ':')
    match cs.drop name.length with
    | ':' :: ']' :: rest =>
      (CharSet.asciiNamed? (String.ofList name)).map fun s => (s, negated, rest)
    | _ => none
  | _ => none

mutual

def bracket : Nat → Reading (Nested CharSet)
  | 0 => failure
  | fuel + 1 => do
    let first ← advance
    let negated := first = '^'
    let first ← if negated then advance else pure first
    let count ← dashes (fuel + 1)
    let literal (c : Char) : Nested CharSet := .leaf (.single c)
    let start ←
      if count = 0 && first = ']' then do
        let _ ← advance
        pure [literal ']']
      else pure (List.replicate count (literal '-'))
    let s ← operands none start fuel
    let adapted ← ((← flags).adapted? negated s.value : Option CharSet)
    return ⟨adapted, s.depth + 1⟩

def operands (left : Option (Junction × Nested CharSet)) (parts : List (Nested CharSet)) :
    Nat → Reading (Nested CharSet)
  | 0 => failure
  | fuel + 1 => do
    skipBlanks
    let f ← flags
    let sofar : Reading (Nested CharSet) := do
      let right := Nested.gather CharSet.ofList parts
      match left with
      | none => return right
      | some (j, left) =>
        let a ← (f.adapted? false left.value : Option CharSet)
        let b ← (f.adapted? false right.value : Option CharSet)
        return ⟨j.sets a b, max left.depth right.depth + 1⟩
    let join (j : Junction) : Reading (Nested CharSet) := do
      skip
      skip
      operands (some (j, ← sofar)) [] fuel
    match ← lookTwo with
    | (some ']', _) =>
      skip
      sofar
    | (some '[', _) =>
      match named? (← get).rest with
      | some (s, negated, rest) =>
        modify fun r => { r with rest }
        let s ← (f.adapted? negated s : Option CharSet)
        operands left (parts ++ [.leaf s]) fuel
      | none =>
        let s ← bracket fuel
        operands left (parts ++ [s]) fuel
    | (some '&', some '&') => join .inter
    | (some '-', some '-') => join .difference
    | (some '~', some '~') => join .oneOnly
    | _ =>
      let s ← members
      operands left (parts ++ [.leaf s]) fuel

end

def isNameChar (isFirst : Bool) (c : Char) : Bool :=
  c = '_' ||
    if isFirst then Text.Category.isAlphabetic c
    else c = '.' || c = '[' || c = ']' || Text.Alphanumeric.isAlphanumeric c

def name : Reading Unit := do
  let r ← get
  let name := r.rest.takeWhile (· ≠ '>')
  let isName := match name with
    | [] => false
    | c :: cs => isNameChar true c && cs.all (isNameChar false)
  let text := String.ofList name
  if !isName || r.names.contains text then failure
  match r.rest.drop name.length with
  | '>' :: rest => set { r with rest, names := text :: r.names }
  | _ => failure

def newFlags : Reading (Flags × Char) := do
  let r ← get
  let letters := r.rest.takeWhile fun c => c ≠ ':' && c ≠ ')'
  let f ← (r.flags.changed? true [] letters : Option Flags)
  match r.rest.drop letters.length with
  | c :: rest =>
    if c = ')' && letters.isEmpty then failure
    set { r with rest }
    return (f, c)
  | [] => failure

def repetition (mark : Char) (x : Nested Pattern) : Reading (Nested Pattern) := do
  skip
  let isLazy ← skipText "?"
  let greedy := isLazy == (← flags).swapped
  return x.wrap (match mark with
    | '*' => many greedy
    | '+' => repeated greedy
    | _ => optional greedy)

def isMark (c : Char) : Bool :=
  c = '*' || c = '+' || c = '?'

def repetitions (x : Nested Pattern) : Nat → Reading (Nested Pattern)
  | 0 => return x
  | fuel + 1 => do
    skipBlanks
    match ← look with
    | some c => if isMark c then repetitions (← repetition c x) fuel else return x
    | none => return x

def atom (c : Char) : Reading Pattern := do
  let f ← flags
  skip
  let literal (c : Char) : Reading Pattern := do
    return one (← (f.adapted? false (.single c) : Option CharSet))
  let line (of : Bool → Edge) (otherwise : Edge) : Reading Pattern :=
    return edge (if f.manyLines then of f.returns else otherwise)
  match c with
  | '.' =>
    if !f.allScripts then failure
    return one (if f.dotIsAll then .all else .ofLine f.returns)
  | '^' => line .lineStart .textStart
  | '$' => line .lineEnd .textEnd
  | '\\' =>
    match ← escape with
    | .char c => literal c
    | .byte c => if f.allScripts || isAscii c then literal c else failure
    | .set s => return one s
    | .edge e => return edge e
  | c => if isMark c || c = '\x7b' then failure else literal c

mutual

def alternatives : Nat → Reading (List (Nested Pattern))
  | 0 => failure
  | fuel + 1 => do
    let here := Nested.gather ofList (← parts fuel)
    if ← skipText "|" then return here :: (← alternatives fuel) else return [here]

def parts : Nat → Reading (List (Nested Pattern))
  | 0 => failure
  | fuel + 1 => do
    skipBlanks
    match ← look with
    | none | some '|' | some ')' => return []
    | some c =>
      let here ←
        if c = '(' then group fuel
        else do
          let x ← if c = '[' then do
              let s ← bracket (fuel + 1)
              pure ⟨one s.value, s.depth⟩
            else do pure (.leaf (← atom c))
          repetitions x ((← get).rest.length + 1)
      return here :: (← parts fuel)

def group : Nat → Reading (Nested Pattern)
  | 0 => failure
  | fuel + 1 => do
    skip
    skipBlanks
    let outer ← flags
    let isNamed ← do if ← skipText "?P<" then pure true else skipText "?<"
    let (inner, sign) ←
      if isNamed then do
        name
        pure (outer, ':')
      else if ← skipText "?" then newFlags
      else pure (outer, ':')
    modify fun r => { r with flags := inner }
    if sign = ')' then return .leaf empty
    else
      let x := (Nested.gather choice (← alternatives fuel)).wrap id
      if !(← skipText ")") then failure
      modify fun r => { r with flags := outer }
      repetitions x ((← get).rest.length + 1)

end

end Reading

inductive Flaw
  | malformed
  /-- It asks for edges of words of all scripts. -/
  | wordEdges
deriving DecidableEq, Repr

def ofText (s : String) : Except Flaw Pattern :=
  let cs := s.toList
  match (Reading.alternatives (4 * cs.length + 8)).run ⟨cs, .plain, [], false⟩ with
  | none => .error .malformed
  | some (ps, r) =>
    let x := Nested.gather choice ps
    if !r.rest.isEmpty || Nested.limit < x.depth then .error .malformed
    else if r.seesWords then .error .wordEdges
    else .ok x.value

end QualityGate.Log.Pattern
