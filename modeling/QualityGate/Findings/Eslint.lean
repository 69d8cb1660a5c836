import QualityGate.Findings.Lines
import QualityGate.Text.Digits

namespace QualityGate.Findings.Eslint

open Text.Digits

structure Finding where
  line : List Char
  column : List Char
  message : List Char
  rule : Option (List Char)
deriving DecidableEq, Repr

def number? (cs : List Char) : Option (List Char × List Char) :=
  match cs.span isDecimal with
  | ([], _) => none
  | (digits, ':' :: rest) => some (digits, rest)
  | _ => none

/-- Line and column after the colon that ends a path, and the text that follows them. -/
def position? (cs : List Char) : Option (List Char × List Char × List Char) :=
  match number? cs with
  | none => none
  | some (line, cs) =>
    match number? cs with
    | some (column, ' ' :: rest) => if rest.isEmpty then none else some (line, column, rest)
    | _ => none

def ruleEnd? (cs : List Char) : Option (Option (List Char)) :=
  match cs with
  | [']'] => some none
  | '/' :: cs =>
    if cs.getLast? = some ']' ∧ cs.dropLast ≠ [] then some (some cs.dropLast) else none
  | _ => none

def brackets? (cs : List Char) : Option (Option (List Char)) :=
  match strip? " [Error".toList cs with
  | some rest => ruleEnd? rest
  | none => (strip? " [Warning".toList cs).bind ruleEnd?

/-- The shortest message that is followed by brackets at the end of the line, or all of the text;
the message has at least one character. -/
def message (cs : List Char) : List Char × Option (List Char) :=
  match cs with
  | [] => ([], none)
  | c :: rest =>
    match brackets? rest with
    | some rule => ([c], rule)
    | none =>
      let (m, rule) := message rest
      (c :: m, rule)

def afterPath? : List Char → Option Finding
  | [] => none
  | c :: cs =>
    match if c = ':' then position? cs else none with
    | some (line, column, rest) =>
      let (text, rule) := message rest
      some ⟨line, column, text, rule⟩
    | none => afterPath? cs

def finding? (line : List Char) : Option Finding :=
  match line with
  | [] => none
  | _ :: cs => afterPath? cs

def Finding.chars (f : Finding) : List Char :=
  f.line ++ ':' :: f.column ++ ' ' :: f.message ++
    match f.rule with
    | some rule => ' ' :: '(' :: rule ++ [')']
    | none => []

def error? (line : List Char) : Option String :=
  (finding? line).map fun f => String.ofList f.chars

end QualityGate.Findings.Eslint
