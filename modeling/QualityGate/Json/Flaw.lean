import QualityGate.Text.Digits
import QualityGate.Text.Utf8

namespace QualityGate.Json

inductive Defect
  | unfinishedList
  | unfinishedObject
  | unfinishedString
  | unfinishedValue
  | expectedColon
  | expectedListEnd
  | expectedObjectEnd
  | expectedWord
  | expectedValue
  | invalidEscape
  | invalidNumber
  | numberOutOfRange
  | controlCharacter
  | keyNotString
  | loneSurrogate
  | trailingComma
  | trailingCharacters
  | unfinishedHex
deriving DecidableEq, Repr

def Defect.message : Defect → String
  | unfinishedList => "EOF while parsing a list"
  | unfinishedObject => "EOF while parsing an object"
  | unfinishedString => "EOF while parsing a string"
  | unfinishedValue => "EOF while parsing a value"
  | expectedColon => "expected `:`"
  | expectedListEnd => "expected `,` or `]`"
  | expectedObjectEnd => "expected `,` or `\x7d`"
  | expectedWord => "expected ident"
  | expectedValue => "expected value"
  | invalidEscape => "invalid escape"
  | invalidNumber => "invalid number"
  | numberOutOfRange => "number out of range"
  | controlCharacter => "control character (\\u0000-\\u001F) found while parsing a string"
  | keyNotString => "key must be a string"
  | loneSurrogate => "lone leading surrogate in hex escape"
  | trailingComma => "trailing comma"
  | trailingCharacters => "trailing characters"
  | unfinishedHex => "unexpected end of hex escape"

/-- A cause, and the place of it: so many bytes ahead of the text that was left. -/
structure Flaw (κ : Type) where
  cause : κ
  rest : List Char
  ahead : Nat
deriving Repr

variable {κ α : Type}

/-- The result of reading a part of a text: what was read, and the text that is left. -/
abbrev Scan (α : Type) := Except (Flaw Defect) (α × List Char)

def failHere (cause : κ) (rest : List Char) : Except (Flaw κ) α :=
  .error ⟨cause, rest, 0⟩

def failNext (cause : κ) (rest : List Char) : Except (Flaw κ) α :=
  .error ⟨cause, rest, 1⟩

def byteSize (cs : List Char) : Nat :=
  cs.foldl (fun n c => n + c.utf8Size) 0

/-- The number of bytes before the flaw; a flaw is never past the end of the text. -/
def Flaw.offset (text : String) (f : Flaw κ) : Nat :=
  let total := text.utf8ByteSize
  min total (total - byteSize f.rest + f.ahead)

/-- Line and column, both in bytes: lines count from one, and the column is the number of bytes
since the last line feed. -/
structure Position where
  line : Nat
  column : Nat
deriving DecidableEq, Repr

def Position.ofOffset (text : String) (offset : Nat) : Position :=
  ((Text.Utf8.encode text).take offset).foldl
    (fun p b => if b = 0x0A then ⟨p.line + 1, 0⟩ else ⟨p.line, p.column + 1⟩) ⟨1, 0⟩

def Position.message (p : Position) : String :=
  " at line " ++ Text.Digits.decimal p.line ++ " column " ++ Text.Digits.decimal p.column

def Flaw.position (text : String) (f : Flaw κ) : Position :=
  .ofOffset text (f.offset text)

end QualityGate.Json
