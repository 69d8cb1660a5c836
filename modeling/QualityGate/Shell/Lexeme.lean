import QualityGate.Shell.Script

namespace QualityGate.Shell

inductive Token
  | word (w : Word)
  /-- A word that has a meaning of its own where a command may start. -/
  | keyword (text : String)
  /-- A sign between commands; a line feed is one. -/
  | sign (text : String)
  | redirect (descriptor : Nat) (direction : Direction) (stripsTabs : Bool)
  | ending

namespace Token

def isSign (s : String) : Token → Bool
  | sign t => s = t
  | _ => false

def isKeyword (s : String) : Token → Bool
  | keyword t => s = t
  | _ => false

def isEnding : Token → Bool
  | ending => true
  | _ => false

def asWord : Token → Word
  | word w => w
  | keyword s => [.text false s]
  | _ => []

def shown : Token → String
  | word _ => "word"
  | keyword s => "\"" ++ s ++ "\""
  | sign "\n" => "newline"
  | sign s => "\"" ++ s ++ "\""
  | redirect .. => "redirection"
  | ending => "end of file"

end Token

def isNameStart (c : Char) : Bool :=
  c.isAlpha || c = '_'

def isNameChar (c : Char) : Bool :=
  c.isAlphanum || c = '_'

def isName (cs : List Char) : Bool :=
  cs.head?.any isNameStart && cs.all isNameChar

def isSpecialParameter (c : Char) : Bool :=
  ['@', '*', '#', '?', '-', '$', '!'].contains c

def isBlankChar (c : Char) : Bool :=
  c = ' ' || c = '\t'

def endsWord (c : Char) : Bool :=
  isBlankChar c || ['\n', ';', '&', '|', '<', '>', '(', ')'].contains c

def isOrdinary (c : Char) : Bool :=
  !endsWord c && !(['\'', '"', '\\', '$', '\x60', '\x7d'].contains c)

def keywords : List String :=
  ["!", "\x7b", "\x7d", "case", "do", "done", "elif", "else", "esac", "fi", "for", "if", "in",
    "then", "until", "while"]

def Token.asKeyword : Token → Token
  | word w =>
    match w.bare?.filter keywords.contains with
    | some s => keyword s
    | none => word w
  | t => t

def Token.endsList : Token → Bool
  | ending => true
  | sign s => s = ")" || s = ";;"
  | keyword s => ["\x7d", "do", "done", "elif", "else", "esac", "fi", "then"].contains s
  | word _ | redirect .. => false

/-- Builtin commands whose failures end the script. No other command can have their names. -/
def specialBuiltins : List String :=
  [".", ":", "break", "continue", "eval", "exec", "exit", "export", "readonly", "return", "set",
    "shift", "times", "trap", "unset"]

def Word.assignment? : Word → Option (String × Word)
  | .text false s :: rest =>
    let cs := s.toList
    let name := cs.takeWhile isNameChar
    match cs.dropWhile isNameChar with
    | '=' :: value =>
      if isName name then
        some (String.ofList name,
          if value.isEmpty then rest else .text false (String.ofList value) :: rest)
      else none
    | _ => none
  | _ => none

structure Source where
  rest : List Char
  line : Nat
  /-- How many characters after the line have been read before their turn. -/
  ahead : Nat
  /-- How many lines begin with the end of the text, if it is that of a document. -/
  behind : Option Nat

namespace Source

def ofText (text : String) : Source :=
  ⟨text.toList, 1, 0, none⟩

def joined (s : Source) : Source :=
  go s.rest s.line
where
  go : List Char → Nat → Source
    | '\\' :: '\n' :: cs, line => go cs (line + 1)
    | cs, line => { s with rest := cs, line }

def nextLine (s : Source) (rest : List Char) : Source :=
  { s with
    rest := rest.drop s.ahead
    line := s.line + 1 + (rest.take s.ahead).count '\n'
    ahead := 0 }

def passBreak (s : Source) (rest : List Char) : Source :=
  { s with rest, line := s.line + 1 }

def pass (s : Source) (count : Nat) : Source :=
  { s with rest := s.rest.drop count, line := s.line + (s.rest.take count).count '\n' }

def flawLine (s : Source) : Nat :=
  s.line + if s.rest.isEmpty then s.behind.getD 0 else 0

end Source

inductive Quoting
  | bare
  | single
  | double
deriving DecidableEq

/-- The characters up to the end of the line, where line feeds in quotes do not count. -/
def restOfLine : Quoting → Bool → List Char → List Char
  | _, _, [] => []
  | .single, _, c :: cs => c :: restOfLine (if c = '\'' then .bare else .single) false cs
  | q, _, '\\' :: c :: cs => '\\' :: c :: restOfLine q false cs
  | .double, _, c :: cs => c :: restOfLine (if c = '"' then .bare else .double) false cs
  | .bare, afterBlank, c :: cs =>
    if c = '\n' then []
    else if c = '#' && afterBlank then c :: cs.takeWhile (· ≠ '\n')
    else
      let q := if c = '\'' then .single else if c = '"' then .double else .bare
      c :: restOfLine q (endsWord c) cs

/-- The lines of a document up to the one that ends it, and how many characters they take up
together with that one. -/
def documentLines (stripsTabs : Bool) (ending : List Char) : Nat → List Char → List Char × Nat
  | 0, _ => ([], 0)
  | _ + 1, [] => ([], 0)
  | fuel + 1, cs =>
    let whole := cs.takeWhile (· ≠ '\n')
    let line := if stripsTabs then whole.dropWhile (· = '\t') else whole
    let broken := whole.length < cs.length
    let size := if broken then whole.length + 1 else whole.length
    if line = ending then ([], size)
    else
      let (rest, more) := documentLines stripsTabs ending fuel (cs.drop size)
      ((if broken then line ++ ['\n'] else line) ++ rest, size + more)

/-- The text up to the next back quote, where a backslash takes the meaning from some signs. -/
def untilBackQuote (quoted : Bool) : List Char → Option (List Char × List Char)
  | [] => none
  | '\x60' :: cs => some ([], cs)
  | '\\' :: c :: cs =>
    let bare := ['\x60', '\\', '$'].contains c || (quoted && c = '"')
    (untilBackQuote quoted cs).map fun (text, rest) =>
      if bare then (c :: text, rest) else ('\\' :: c :: text, rest)
  | c :: cs => (untilBackQuote quoted cs).map fun (text, rest) => (c :: text, rest)

end QualityGate.Shell
