
namespace QualityGate.Yaml

structure Cursor where
  rest : List Char
  offset : Nat
  line : Nat
  column : Nat

def isBreak (c : Char) : Bool :=
  c = '\n' || c = '\r' || c = '\u0085' || c = '\u2028' || c = '\u2029'

def isBlank (c : Char) : Bool :=
  c = ' ' || c = '\t'

def isAllowed (c : Char) : Bool :=
  let n := c.toNat
  n = 0x9 || n = 0xA || n = 0xD || (0x20 ≤ n && n ≤ 0x7E) || n = 0x85 ||
    (0xA0 ≤ n && n ≤ 0xFFFD) || 0x10000 ≤ n

def isWordChar (c : Char) : Bool :=
  c.isAlphanum || c = '_' || c = '-'

namespace Cursor

def ofText (cs : List Char) : Cursor :=
  ⟨cs, 0, 0, 0⟩

def atEnd (c : Cursor) : Bool :=
  c.rest.isEmpty

def look? (c : Cursor) (distance : Nat) : Option Char :=
  c.rest[distance]?

def next? (c : Cursor) : Option Char :=
  c.rest.head?

def sees (c : Cursor) (x : Char) (distance : Nat) : Bool :=
  c.look? distance == some x

def isAt (c : Cursor) (x : Char) : Bool :=
  c.next? == some x

def atBlank (c : Cursor) : Bool :=
  c.next?.any isBlank

def atBreak (c : Cursor) : Bool :=
  c.next?.any isBreak

def breakOrEnd (c : Cursor) (distance : Nat) : Bool :=
  (c.look? distance).all isBreak

def spaceOrEnd (c : Cursor) (distance : Nat) : Bool :=
  (c.look? distance).all fun x => isBlank x || isBreak x

def skip (c : Cursor) : Cursor :=
  match c.rest with
  | [] => c
  | x :: rest => ⟨rest, c.offset + x.utf8Size, c.line, c.column + 1⟩

def skipMany (c : Cursor) : Nat → Cursor
  | 0 => c
  | n + 1 => c.skip.skipMany n

def skipLine (c : Cursor) : Cursor :=
  match c.rest with
  | '\r' :: '\n' :: rest => ⟨rest, c.offset + 2, c.line + 1, 0⟩
  | x :: rest => if isBreak x then ⟨rest, c.offset + x.utf8Size, c.line + 1, 0⟩ else c
  | [] => c

def breakText (c : Cursor) : String :=
  match c.next? with
  | some '\u2028' => "\u2028"
  | some '\u2029' => "\u2029"
  | some x => if isBreak x then "\n" else ""
  | none => ""

/-- The characters of a run and the place after it, if no line break is among them. -/
def takeRun (p : Char → Bool) (c : Cursor) : String × Cursor :=
  let run := c.rest.takeWhile p
  (String.ofList run, c.skipMany run.length)

/-- The line starts with three of the given marks, and a space or the end follows. -/
def atMarker (c : Cursor) (x : Char) : Bool :=
  c.column = 0 && c.sees x 0 && c.sees x 1 && c.sees x 2 && c.spaceOrEnd 3

def atDocument (c : Cursor) : Bool :=
  c.atMarker '-' || c.atMarker '.'

def skipToBreak (c : Cursor) : Cursor :=
  (c.takeRun fun x => !isBreak x).2

end Cursor
end QualityGate.Yaml
