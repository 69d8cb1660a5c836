import QualityGate.Text.Digits
import QualityGate.Yaml.Cursor

namespace QualityGate.Yaml

/-- Blanks and breaks between the parts of a scalar. -/
structure Gap where
  blanks : String
  /-- A line break has been passed. -/
  broken : Bool
  first : String
  others : String

namespace Gap

def none : Gap :=
  ⟨"", false, "", ""⟩

def isNone (g : Gap) : Bool :=
  !g.broken && g.blanks.isEmpty

def text (g : Gap) : String :=
  if !g.broken then g.blanks
  else if g.first = "\n" then (if g.others.isEmpty then " " else g.others)
  else g.first ++ g.others

def withBreak (g : Gap) (s : String) : Gap :=
  if g.broken then { g with others := g.others ++ s } else ⟨"", true, s, ""⟩

end Gap

/-- The blanks and breaks from here on are added to a gap. A tab may not stand before the given
column of a line. -/
def takeGap (indent : Option Nat) : Nat → Gap → Cursor → Option (Gap × Cursor)
  | 0, g, c => some (g, c)
  | fuel + 1, g, c =>
    match c.next? with
    | some x =>
      if isBlank x then
        if g.broken && x = '\t' && indent.any (c.column < ·) then none
        else
          takeGap indent fuel (if g.broken then g else { g with blanks := g.blanks.push x }) c.skip
      else if isBreak x then takeGap indent fuel (g.withBreak c.breakText) c.skipLine
      else some (g, c)
    | none => some (g, c)

def codePoint? (count : Nat) (c : Cursor) : Option (Char × Cursor) :=
  let digits := c.rest.take count
  if digits.length < count then none
  else do
    let n ← Text.Digits.natural? 16 digits
    if (0xD800 ≤ n && n ≤ 0xDFFF) || 0x10FFFF < n then none
    else some (Char.ofNat n, c.skipMany count)

def escape? : Char → Option Char
  | '0' => some '\x00'
  | 'a' => some '\x07'
  | 'b' => some '\x08'
  | 't' | '\t' => some '\t'
  | 'n' => some '\n'
  | 'v' => some '\x0B'
  | 'f' => some '\x0C'
  | 'r' => some '\r'
  | 'e' => some '\x1B'
  | ' ' => some ' '
  | '"' => some '"'
  | '/' => some '/'
  | '\\' => some '\\'
  | 'N' => some '\u0085'
  | '_' => some '\u00A0'
  | 'L' => some '\u2028'
  | 'P' => some '\u2029'
  | _ => none

def escaped? (c : Cursor) : Option (Char × Cursor) := do
  match ← c.next? with
  | 'x' => codePoint? 2 c.skip
  | 'u' => codePoint? 4 c.skip
  | 'U' => codePoint? 8 c.skip
  | x => return (← escape? x, c.skip)

/-- The text of a quoted scalar after its opening quote, and the place after the closing one. -/
def quotedText (double : Bool) : Nat → String → Cursor → Option (String × Cursor)
  | 0, _, _ => none
  | fuel + 1, text, c => do
    if c.atDocument then none
    let x ← c.next?
    if isBlank x || isBreak x then
      let (gap, c) ← takeGap none fuel .none c
      quotedText double fuel (text ++ gap.text) c
    else if double then
      if x = '"' then return (text, c.skip)
      else if x = '\\' then
        if (c.look? 1).any isBreak then
          let (gap, c) ← takeGap none fuel ⟨"", true, "", ""⟩ c.skip.skipLine
          quotedText double fuel (text ++ gap.text) c
        else
          let (y, c) ← escaped? c.skip
          quotedText double fuel (text.push y) c
      else quotedText double fuel (text.push x) c.skip
    else if x = '\'' then
      if c.sees '\'' 1 then quotedText double fuel (text.push '\'') (c.skipMany 2)
      else return (text, c.skip)
    else quotedText double fuel (text.push x) c.skip

def isFlowMark (x : Char) : Bool :=
  x = ',' || x = '[' || x = ']' || x = '\x7b' || x = '\x7d'

/-- A colon before one of these ends no plain scalar in a flow collection, but is none of its
characters either. -/
def isColonTrap (x : Char) : Bool :=
  isFlowMark x || x = '?'

def endsPlain (inFlow : Bool) (c : Cursor) (x : Char) : Bool :=
  (x = ':' && c.spaceOrEnd 1) || (inFlow && isFlowMark x)

/-- The text of a plain scalar from here on, the place after it and the blanks behind it, and
whether a line break is among those. Outside of flow collections the scalar ends where a line is
indented less than it has to be. -/
def plainText (inFlow : Bool) (indent : Nat) :
    Nat → String → Gap → Cursor → Option (String × Bool × Cursor)
  | 0, text, gap, c => some (text, gap.broken, c)
  | fuel + 1, text, gap, c =>
    let stop : Option (String × Bool × Cursor) := some (text, gap.broken, c)
    match c.next? with
    | none => stop
    | some x =>
      if isBlank x || isBreak x then do
        let (gap, c) ← takeGap (some indent) fuel gap c
        if c.atDocument || c.isAt '#' || (!inFlow && c.column < indent && gap.broken) then
          some (text, gap.broken, c)
        else plainText inFlow indent fuel text gap c
      else if inFlow && x = ':' && (c.look? 1).any isColonTrap then none
      else if endsPlain inFlow c x then stop
      else plainText inFlow indent fuel ((text ++ gap.text).push x) .none c.skip

inductive Chomping
  | strip
  | clip
  | keep
deriving DecidableEq

/-- The header of a block scalar after its mark: the indentation, if it is given, and what becomes
of the line breaks at the end. -/
def blockHeader? (c : Cursor) : Option (Option Nat × Chomping × Cursor) :=
  let chomping? (c : Cursor) : Option Chomping :=
    if c.isAt '+' then some .keep else if c.isAt '-' then some .strip else none
  let digit? (c : Cursor) : Option Nat := c.next?.bind (Text.Digits.valueIn? 10)
  match chomping? c with
  | some chomping =>
    match digit? c.skip with
    | some 0 => none
    | some n => some (some n, chomping, c.skip.skip)
    | none => some (none, chomping, c.skip)
  | none =>
    match digit? c with
    | some 0 => none
    | some n =>
      match chomping? c.skip with
      | some chomping => some (some n, chomping, c.skip.skip)
      | none => some (some n, .clip, c.skip)
    | none => some (none, .clip, c)

/-- To the end of a line on which nothing but a comment may stand, and past its break. -/
def skipRestOfLine? (c : Cursor) : Option Cursor :=
  let c := (c.takeRun isBlank).2
  let c := if c.isAt '#' then c.skipToBreak else c
  if c.breakOrEnd 0 then some c.skipLine else none

/-- Indentation and empty lines are passed, up to the given column or, where that is not known, to
the first character of a line. The breaks of the empty lines are returned with the largest
indentation seen. -/
def emptyLines (indent : Option Nat) : Nat → Nat → String → Cursor → Option (String × Nat × Cursor)
  | 0, widest, breaks, c => some (breaks, widest, c)
  | fuel + 1, widest, breaks, c =>
    let inside := indent.all (c.column < ·)
    if inside && c.isAt ' ' then emptyLines indent fuel widest breaks c.skip
    else
      let widest := max widest c.column
      if inside && c.isAt '\t' then none
      else if c.atBreak then emptyLines indent fuel widest (breaks ++ c.breakText) c.skipLine
      else some (breaks, widest, c)

/-- The lines of a block scalar: the text so far, the break of the last line, the breaks of empty
lines after it, and whether that line started with a blank. -/
def blockLines (folded : Bool) (indent : Nat) :
    Nat → String → String → String → Bool → Cursor → Option (String × String × String × Cursor)
  | 0, text, last, empty, _, c => some (text, last, empty, c)
  | fuel + 1, text, last, empty, afterBlank, c =>
    if c.column = indent && !c.atEnd then do
      let blank := c.atBlank
      let joint :=
        if folded && last = "\n" && !afterBlank && !blank then (if empty.isEmpty then " " else "")
        else last
      let (line, c) := c.takeRun fun x => !isBreak x
      let last := c.breakText
      let text := text ++ joint ++ empty ++ line
      let (empty, _, c) ← emptyLines (some indent) fuel 0 "" c.skipLine
      blockLines folded indent fuel text last empty blank c
    else some (text, last, empty, c)

def blockText (folded : Bool) (parent : Int) (c : Cursor) : Option (String × Cursor) := do
  let fuel := c.rest.length + 1
  let (given, chomping, c) ← blockHeader? c
  let c ← skipRestOfLine? c
  let least := (max (parent + 1) 1).toNat
  let given := given.map fun n => (max parent 0).toNat + n
  let (empty, widest, c) ← emptyLines given fuel 0 "" c
  let indent := given.getD (max widest least)
  let (text, last, empty, c) ← blockLines folded indent fuel "" "" empty false c
  return match chomping with
    | .strip => (text, c)
    | .clip => (text ++ last, c)
    | .keep => (text ++ last ++ empty, c)

end QualityGate.Yaml
