import QualityGate.Shell.Arithmetic
import QualityGate.Shell.Pattern

namespace QualityGate.Shell

/-- A part of a word while it is expanded. -/
inductive Mark
  | char (expanded quoted : Bool) (c : Char)
  /-- Quotes with nothing in them. -/
  | void
  /-- The border between two positional parameters. -/
  | border
deriving DecidableEq

namespace Mark

def ofText (expanded quoted : Bool) (s : String) : List Mark :=
  if quoted && s.isEmpty then [.void] else s.toList.map (.char expanded quoted)

def loosen : Mark → Mark
  | .char _ quoted c => .char true quoted c
  | m => m

def text (glue : String) (ms : List Mark) : String :=
  String.ofList (ms.flatMap fun
    | .char _ _ c => [c]
    | .void => []
    | .border => glue.toList)

def pattern (glue : String) (ms : List Mark) : Pattern :=
  ms.flatMap fun
    | .char _ quoted c => [⟨quoted, c⟩]
    | .void => []
    | .border => glue.toList.map (⟨true, ·⟩)

/-- The fields of a word. A separator that is a blank ends a field that has begun; any other ends
a field in any case, together with blanks before it. -/
def fieldsFrom (separators : List Char) :
    Option Pattern → Bool → List Mark → List Pattern
  | current, _, [] => current.toList
  | current, absorbing, m :: ms =>
    match m with
    | .void => fieldsFrom separators (some (current.getD [])) false ms
    | .border => current.toList ++ fieldsFrom separators none false ms
    | .char expanded quoted c =>
      if expanded && !quoted && separators.contains c then
        if c = ' ' || c = '\t' || c = '\n' then
          current.toList ++ fieldsFrom separators none (absorbing || current.isSome) ms
        else if current.isNone && absorbing then fieldsFrom separators none false ms
        else (current.getD []) :: fieldsFrom separators none false ms
      else fieldsFrom separators (some (current.getD [] ++ [⟨quoted, c⟩])) false ms

def fields (separators : List Char) (ms : List Mark) : List Pattern :=
  fieldsFrom separators none false ms

end Mark

def Pattern.components : Pattern → List Pattern
  | [] => [[]]
  | x :: p =>
    if x.char = '/' then [] :: components p
    else match components p with
      | [] => [[x]]
      | q :: qs => (x :: q) :: qs

/-- A name that a component of a pattern stands for. One that starts with a dot has to be asked
for. -/
def Pattern.isName (p : Pattern) (name : String) : Bool :=
  p.isMatch name && (name.toList.head? ≠ some '.' || p.text.head? = some '.')

def pathsFrom (t : FileTree) (dir : Place) (shown : String) : List Pattern → List String
  | [] => []
  | p :: ps =>
    let names :=
      if p.isOpen then
        ((t.names dir ++ [".", ".."]).filter p.isName).mergeSort (· ≤ ·)
      else if p.isEmpty then [""]
      else
        let name := String.ofList p.text
        if name = "." || name = ".." || (t.find? (dir ++ [name])).isSome then [name] else []
    names.flatMap fun name =>
      let place := if name = "" || name = "." then dir
        else if name = ".." then dir.dropLast else dir ++ [name]
      match ps with
      | [] => [shown ++ name]
      | _ :: _ => if t.isDirectory place then pathsFrom t place (shown ++ name ++ "/") ps else []

def paths (s : Session) (p : Pattern) : List String :=
  if p.isOpen && !s.options.contains 'f' then
    let found :=
      if p.text.head? = some '/' then pathsFrom s.tree [] "/" (Pattern.components (p.drop 1))
      else pathsFrom s.tree s.cwd "" (Pattern.components p)
    if found.isEmpty then [String.ofList p.text] else found
  else [String.ofList p.text]

def homeOf? (s : Session) (name : String) : Option String :=
  if name = "" then s.valueOf? "HOME" else if name = "root" then some "/root" else none

/-- Tildes at the start of a text become directories; in a list of paths, those behind colons
too. -/
def untilded (s : Session) (inList : Bool) : Nat → Bool → Bool → List Char → List Mark
  | 0, _, _, _ => []
  | _ + 1, _, _, [] => []
  | fuel + 1, atStart, isWhole, c :: cs =>
    let literally := .char false false c :: untilded s inList fuel (inList && c = ':') isWhole cs
    if atStart && c = '~' then
      let name := cs.takeWhile fun d => d ≠ '/' && !(inList && d = ':')
      let rest := cs.drop name.length
      match homeOf? s (String.ofList name) with
      | some home =>
        if rest.isEmpty && !isWhole then literally
        else Mark.ofText false true home ++ untilded s inList fuel false isWhole rest
      | none => literally
    else literally

def substituted (bytes : List UInt8) : String :=
  let kept := bytes.filter (· ≠ 0)
  Text.Utf8.decodeLossy (kept.reverse.dropWhile (· = 10)).reverse

def separately (quoted : Bool) (values : List String) : List Mark :=
  ((values.map (Mark.ofText true quoted)).intersperse [.border]).flatten

def allParams (s : Session) (quoted joined : Bool) : List Mark :=
  if quoted && joined then Mark.ofText true true (s.glue.intercalate s.params)
  else separately quoted s.params

def unsetMessage (name : String) : String :=
  name ++ ": parameter not set"

section

variable (output : Script → ShellM (List UInt8))

mutual

def expandWord (splits : Bool) : List Segment → Attempt (List Mark)
  | [] => return []
  | x :: xs => do
    let here ← expandSegment splits x
    let rest ← expandWord splits xs
    return here ++ rest

def expandSegment (splits : Bool) : Segment → Attempt (List Mark)
  | .text quoted text => return Mark.ofText false quoted text
  | .output quoted script => do
    let bytes ← output script
    return Mark.ofText true quoted (substituted bytes)
  | .sum quoted expression => do
    let ms ← expandWord false expression
    let z ← Arithmetic.valueOf (Mark.text (← get).glue ms)
    return Mark.ofText true quoted (Text.Digits.signed z)
  | .parameter quoted name modifier => expandModifier splits quoted name modifier

def expandModifier (splits quoted : Bool) (name : String) : Modifier → Attempt (List Mark)
  | .bad => throw "Bad substitution"
  | .plain => do
    let s ← get
    if name = "@" || name = "*" then return allParams s quoted (name = "*")
    else match s.parameter? name with
      | some value => return Mark.ofText true quoted value
      | none =>
        if s.options.contains 'u' then throw (unsetMessage name)
        else return Mark.ofText true quoted ""
  | .size => do
    let s ← get
    match s.parameter? name with
    | some value => return Mark.ofText true quoted (Text.Digits.decimal value.utf8ByteSize)
    | none =>
      if s.options.contains 'u' then throw (unsetMessage name)
      else return Mark.ofText true quoted "0"
  | .strip atEnd longest word => do
    let s ← get
    match s.parameter? name with
    | some value =>
      let ms ← expandWord false word
      let p := Mark.pattern (← get).glue ms
      let isSeveral := splits && !s.params.isEmpty &&
        if quoted then name = "@"
        else (name = "@" || name = "*") && (s.valueOf? "IFS").isSome
      if isSeveral then return separately quoted (p.stripAll atEnd longest s.params)
      else return Mark.ofText true quoted (p.strip atEnd longest value)
    | none =>
      if s.options.contains 'u' then throw (unsetMessage name)
      else return Mark.ofText true quoted ""
  | .fallback kind emptyToo word => do
    let s ← get
    let value := s.parameter? name
    let isSet := value.isSome && !(emptyToo && value == some "")
    match kind, isSet with
    | .replace, false => return Mark.ofText true quoted ""
    | .replace, true | .use, false => do
      let ms ← expandWord splits word
      return if quoted then ms ++ [.void] else ms.map Mark.loosen
    | .assign, false => do
      let value := Mark.text s.glue (← expandWord false word)
      if !isName name.toList then throw (name ++ ": bad variable name")
      assignVariable name value
      return Mark.ofText true quoted value
    | .complain, false => do
      let message ← match word with
        | [] => pure (if emptyToo then "parameter not set or null" else "parameter not set")
        | _ => do
          let ms ← expandWord false word
          pure (Mark.text s.glue ms)
      throw (name ++ ": " ++ message)
    | _, true =>
      if name = "@" || name = "*" then return allParams s quoted (name = "*")
      else return Mark.ofText true quoted (value.getD "")

end

def expandMarks (splits inList : Bool) (w : Word) : Attempt (List Mark) := do
  match w with
  | .text false text :: rest =>
    let s ← get
    let start := untilded s inList (text.length + 1) true rest.isEmpty text.toList
    return start ++ (← expandWord output splits rest)
  | _ => expandWord output splits w

def expandText (inList : Bool) (w : Word) : Attempt String := do
  let ms ← expandMarks output false inList w
  return Mark.text (← get).glue ms

def expandPattern (w : Word) : Attempt Pattern := do
  let ms ← expandMarks output false false w
  return Mark.pattern (← get).glue ms

def expandFields (w : Word) : Attempt (List String) := do
  let ms ← expandMarks output true false w
  let s ← get
  return (Mark.fields s.separators ms).flatMap (paths s)

def expandAll : List Word → Attempt (List String)
  | [] => return []
  | w :: ws => do
    let here ← expandFields output w
    return here ++ (← expandAll ws)

end

end QualityGate.Shell
