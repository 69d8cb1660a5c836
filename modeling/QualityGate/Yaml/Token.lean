import QualityGate.Text.Utf8
import QualityGate.Yaml.ScalarText

namespace QualityGate.Yaml

abbrev Tag := List UInt8

inductive Token
  | version (major minor : Nat)
  | tagHandle (handle : String) (start : Tag)
  | documentStart
  | documentEnd
  | blockSequence
  | blockMapping
  | blockEnd
  | flowSequence
  | flowSequenceEnd
  | flowMapping
  | flowMappingEnd
  | flowEntry
  | blockEntry
  | key
  | value
  /-- The node with an anchor is to be there once more. -/
  | again (name : String)
  | anchor (name : String)
  | tag (handle : String) (suffix : Tag)
  | scalar (plain : Bool) (text : String)
deriving DecidableEq, Repr

/-- A place where a mapping key may have started: the number of the tokens before it, where it
stands, and whether a key has to stand there. -/
structure KeyPlace where
  token : Nat
  place : Cursor
  required : Bool

/-- The tokens so far. There is one key place for the block context and one for each flow
collection that is open, the innermost first. -/
structure Lexer where
  cursor : Cursor
  tokens : Array Token
  indent : Int
  indents : List Int
  keyAllowed : Bool
  keys : List (Option KeyPlace)

namespace Lexer

def ofText (cs : List Char) : Lexer :=
  ⟨.ofText cs, #[], -1, [], true, [none]⟩

def inFlow (l : Lexer) : Bool :=
  1 < l.keys.length

def push (l : Lexer) (t : Token) : Lexer :=
  { l with tokens := l.tokens.push t }

def take (l : Lexer) (t : Token) (size : Nat) : Lexer :=
  { l.push t with cursor := l.cursor.skipMany size }

def openBlock (l : Lexer) (column : Nat) (position : Nat) (t : Token) : Lexer :=
  if l.inFlow || column ≤ l.indent then l
  else
    { l with
      indents := l.indent :: l.indents
      indent := column
      tokens := l.tokens.insertIdxIfInBounds position t }

/-- The block collections that are indented further than the given column end here. -/
def closeBlocks (column : Int) : List Int → Lexer → Lexer
  | [], l => l
  | outer :: rest, l =>
    if !l.inFlow && column < l.indent then
      closeBlocks column rest { l.push .blockEnd with indent := outer, indents := rest }
    else l

def unroll (l : Lexer) (column : Int) : Lexer :=
  closeBlocks column l.indents l

def dropKey (l : Lexer) : Option Lexer :=
  match l.keys with
  | some place :: rest => if place.required then none else some { l with keys := none :: rest }
  | _ => some l

def markKey (l : Lexer) : Option Lexer :=
  if l.keyAllowed then do
    let l ← l.dropKey
    let required := !l.inFlow && l.indent == (l.cursor.column : Int)
    return { l with keys := some ⟨l.tokens.size, l.cursor, required⟩ :: l.keys.tail }
  else some l

def isStale (c : Cursor) (place : KeyPlace) : Bool :=
  place.place.line < c.line || place.place.offset + 1024 < c.offset

def dropStale (l : Lexer) : Option Lexer := do
  let keys ← l.keys.mapM fun k =>
    match k with
    | none => some none
    | some place =>
      if isStale l.cursor place then (if place.required then none else some none)
      else some (some place)
  return { l with keys }

def skipSpace : Nat → Lexer → Lexer
  | 0, l => l
  | fuel + 1, l =>
    let c := l.cursor
    let c := if c.column = 0 && c.isAt '\uFEFF' then c.skip else c
    let c := (c.takeRun fun x => x = ' ' || ((l.inFlow || !l.keyAllowed) && x = '\t')).2
    let c := if c.isAt '#' then c.skipToBreak else c
    if c.atBreak then
      skipSpace fuel { l with cursor := c.skipLine, keyAllowed := l.keyAllowed || !l.inFlow }
    else { l with cursor := c }

def versionNumber? (c : Cursor) : Option (Nat × Cursor) := do
  let (digits, c) := c.takeRun Char.isDigit
  if 9 < digits.length then none
  return (← Text.Digits.natural? 10 digits.toList, c)

/-- A tag handle: word characters between exclamation marks, of which the second may be missing. -/
def tagHandle? (directive : Bool) (c : Cursor) : Option (String × Cursor) :=
  if !c.isAt '!' then none
  else
    let (word, c) := c.skip.takeRun isWordChar
    if c.isAt '!' then some ("!" ++ word ++ "!", c.skip)
    else if directive && !word.isEmpty then none
    else some ("!" ++ word, c)

def isTagChar (wide : Bool) (x : Char) : Bool :=
  isWordChar x || [';', '/', '?', ':', '@', '&', '=', '+', '$', '.', '~', '*', '\'', '(', ')', '!',
    '%'].contains x || (wide && [',', '[', ']'].contains x)

def octet? (c : Cursor) : Option (UInt8 × Cursor) := do
  let digits := c.skip.rest.take 2
  if !c.isAt '%' || digits.length < 2 then none
  return (.ofNat (← Text.Digits.natural? 16 digits), c.skipMany 3)

def followers? (b : UInt8) : Option Nat :=
  if b < 0x80 then some 0
  else if b < 0xC0 || 0xF8 ≤ b then none
  else if b < 0xE0 then some 1
  else if b < 0xF0 then some 2
  else some 3

def octets? : Nat → Cursor → Option (List UInt8 × Cursor)
  | 0, c => some ([], c)
  | n + 1, c => do
    let (b, c) ← octet? c
    if b < 0x80 || 0xC0 ≤ b then none
    let (bs, c) ← octets? n c
    return (b :: bs, c)

/-- The rest of a tag. The bytes of a character may be written as octets, one after the other. -/
def tagText (wide : Bool) : Nat → Cursor → Option (List UInt8 × Cursor)
  | 0, c => some ([], c)
  | fuel + 1, c =>
    match c.next? with
    | some x =>
      if !isTagChar wide x then some ([], c)
      else if x = '%' then do
        let (first, c) ← octet? c
        let (others, c) ← octets? (← followers? first) c
        let (bs, c) ← tagText wide fuel c
        return (first :: others ++ bs, c)
      else do
        let (bs, c) ← tagText wide fuel c.skip
        return (Text.Utf8.encode (String.singleton x) ++ bs, c)
    | none => some ([], c)

def cut (bs : List UInt8) : Tag :=
  bs.takeWhile (· ≠ 0)

def directive (l : Lexer) : Option Lexer := do
  let fuel := l.cursor.rest.length
  let (name, c) := l.cursor.skip.takeRun isWordChar
  if !c.spaceOrEnd 0 then none
  let c := (c.takeRun isBlank).2
  let (token, c) ←
    if name = "YAML" then do
      let (major, c) ← versionNumber? c
      if !c.isAt '.' then none
      let (minor, c) ← versionNumber? c.skip
      some (Token.version major minor, c)
    else if name = "TAG" then do
      let (handle, c) ← tagHandle? true c
      if !c.atBlank then none
      let (start, c) ← tagText true fuel (c.takeRun isBlank).2
      if start.isEmpty || !c.spaceOrEnd 0 then none
      some (Token.tagHandle handle (cut start), c)
    else none
  let c ← skipRestOfLine? c
  return { l.push token with cursor := c }

def anchorName? (c : Cursor) : Option (String × Cursor) :=
  let (name, c) := c.takeRun isWordChar
  let ended := c.spaceOrEnd 0 ||
    c.next?.any fun x => ['?', ':', ',', ']', '\x7d', '%', '@', (Char.ofNat 0x60)].contains x
  if name.isEmpty || !ended then none else some (name, c)

/-- A tag in full between angle brackets, or a handle and a suffix. An exclamation mark alone is a
tag in full, too. -/
def tag? (inFlow : Bool) (c : Cursor) : Option (Token × Cursor) := do
  let fuel := c.rest.length
  let (token, c) ←
    if c.sees '<' 1 then do
      let (suffix, c) ← tagText true fuel (c.skipMany 2)
      if suffix.isEmpty || !c.isAt '>' then none
      some (Token.tag "" (cut suffix), c.skip)
    else do
      let (handle, c) ← tagHandle? false c
      if handle.length > 1 && handle.endsWith "!" then do
        let (suffix, c) ← tagText false fuel c
        if suffix.isEmpty then none
        some (Token.tag handle (cut suffix), c)
      else do
        let (others, c) ← tagText false fuel c
        let suffix := cut (Text.Utf8.encode (handle.drop 1).toString ++ others)
        some (if suffix.isEmpty then Token.tag "" (Text.Utf8.encode handle) else .tag "!" suffix, c)
  if c.spaceOrEnd 0 || (inFlow && c.isAt ',') then some (token, c) else none

def outermost (l : Lexer) : Option Lexer :=
  (l.unroll (-1)).dropKey.map fun l => { l with keyAllowed := false }

def openFlow (l : Lexer) (t : Token) : Option Lexer := do
  let l ← l.markKey
  return { l.take t 1 with keys := none :: l.keys, keyAllowed := true }

def closeFlow (l : Lexer) (t : Token) : Option Lexer := do
  let l ← l.dropKey
  return { l.take t 1 with
    keys := if l.inFlow then l.keys.tail else l.keys
    keyAllowed := false }

def flowEntry (l : Lexer) : Option Lexer := do
  let l ← l.dropKey
  return { l.take .flowEntry 1 with keyAllowed := true }

def blockEntry (l : Lexer) : Option Lexer := do
  if !l.inFlow && !l.keyAllowed then none
  let l ← (l.openBlock l.cursor.column l.tokens.size .blockSequence).dropKey
  return { l.take .blockEntry 1 with keyAllowed := true }

def key (l : Lexer) : Option Lexer := do
  if !l.inFlow && !l.keyAllowed then none
  let l ← (l.openBlock l.cursor.column l.tokens.size .blockMapping).dropKey
  return { l.take .key 1 with keyAllowed := !l.inFlow }

def value (l : Lexer) : Option Lexer :=
  match l.keys with
  | some place :: rest =>
    let l := { l with
      tokens := l.tokens.insertIdxIfInBounds place.token .key
      keys := none :: rest }
    let l := l.openBlock place.place.column place.token .blockMapping
    some { l.take .value 1 with keyAllowed := false }
  | _ =>
    if !l.inFlow && !l.keyAllowed then none
    else
      let l := l.openBlock l.cursor.column l.tokens.size .blockMapping
      some { l.take .value 1 with keyAllowed := !l.inFlow }

def anchor (l : Lexer) (token : String → Token) : Option Lexer := do
  let l ← l.markKey
  let (name, c) ← anchorName? l.cursor.skip
  return { l.push (token name) with cursor := c, keyAllowed := false }

def tag (l : Lexer) : Option Lexer := do
  let l ← l.markKey
  let (token, c) ← tag? l.inFlow l.cursor
  return { l.push token with cursor := c, keyAllowed := false }

def blockScalar (l : Lexer) (folded : Bool) : Option Lexer := do
  let l ← l.dropKey
  let (text, c) ← blockText folded l.indent l.cursor.skip
  return { l.push (.scalar false text) with cursor := c, keyAllowed := true }

def quotedScalar (l : Lexer) (double : Bool) : Option Lexer := do
  let l ← l.markKey
  let (text, c) ← quotedText double (l.cursor.rest.length + 1) "" l.cursor.skip
  return { l.push (.scalar false text) with cursor := c, keyAllowed := false }

def plainScalar (l : Lexer) : Option Lexer := do
  let l ← l.markKey
  let (text, broken, c) ←
    plainText l.inFlow (l.indent + 1).toNat (l.cursor.rest.length + 1) "" .none l.cursor
  return { l.push (.scalar true text) with cursor := c, keyAllowed := broken }

/-- Marks that start a plain scalar in no place, or only if something follows them. -/
def isIndicator (x : Char) : Bool :=
  ['-', '?', ':', ',', '[', ']', '\x7b', '\x7d', '#', '&', '*', '!', '|', '>', '\'', '"', '%', '@',
    Char.ofNat 0x60].contains x

def startsPlain (l : Lexer) (x : Char) : Bool :=
  (!isIndicator x && !isBlank x) ||
    (x = '-' && !(l.cursor.look? 1).any isBlank) ||
    (!l.inFlow && (x = '?' || x = ':') && !l.cursor.spaceOrEnd 1)

def token (l : Lexer) (x : Char) : Option Lexer :=
  let c := l.cursor
  let loose := l.inFlow || c.spaceOrEnd 1
  if c.column = 0 && x = '%' then l.outermost.bind directive
  else if c.atMarker '-' then l.outermost.map (·.take .documentStart 3)
  else if c.atMarker '.' then l.outermost.map (·.take .documentEnd 3)
  else if x = '[' then l.openFlow .flowSequence
  else if x = '\x7b' then l.openFlow .flowMapping
  else if x = ']' then l.closeFlow .flowSequenceEnd
  else if x = '\x7d' then l.closeFlow .flowMappingEnd
  else if x = ',' then l.flowEntry
  else if x = '-' && c.spaceOrEnd 1 then l.blockEntry
  else if x = '?' && loose then l.key
  else if x = ':' && loose then l.value
  else if x = '*' then l.anchor .again
  else if x = '&' then l.anchor .anchor
  else if x = '!' then l.tag
  else if x = '|' && !l.inFlow then l.blockScalar false
  else if x = '>' && !l.inFlow then l.blockScalar true
  else if x = '\'' then l.quotedScalar false
  else if x = '"' then l.quotedScalar true
  else if l.startsPlain x then l.plainScalar
  else none

def run : Nat → Lexer → Option (List Token)
  | 0, _ => none
  | fuel + 1, l => do
    let l := l.skipSpace (l.cursor.rest.length + 1)
    let l ← l.dropStale
    match l.cursor.next? with
    | none =>
      let l ← (l.unroll (-1)).dropKey
      return l.tokens.toList
    | some x => run fuel (← (l.unroll l.cursor.column).token x)

end Lexer

/-- The tokens of a text, if it has any; a byte order mark at its start does not count. -/
def Token.ofText? (s : String) : Option (List Token) :=
  let cs := s.toList
  let cs := if cs.head? = some '\uFEFF' then cs.tail else cs
  if cs.all isAllowed then Lexer.run (cs.length + 2) (.ofText cs) else none

end QualityGate.Yaml
