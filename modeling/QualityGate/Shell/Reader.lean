import QualityGate.Shell.Lexeme

namespace QualityGate.Shell

/-- Why a text is no script, and the line where that shows. -/
structure ReadError where
  line : Nat
  message : String
deriving DecidableEq, Repr

/-- The place that has been reached in a text, and a token that was read before its turn. -/
structure Reader where
  source : Source
  waiting : Option Token

abbrev Reading := StateT Reader (Except ReadError)

namespace Word

def push (s : Segment) (w : Word) : Word :=
  match s, w with
  | .text q a, .text r b :: rest => if q = r then .text q (a ++ b) :: rest else s :: w
  | _, _ => s :: w

/-- What stands in quotes. Without any text of its own it still is a word, unless it is nothing but
the positional parameters. -/
def quote : Word → Word
  | [.parameter _ "@" .plain] => [.parameter true "@" .plain]
  | w => push (.text true "") w

end Word

/-- What a text in which quotes have no power of their own lies in. -/
inductive Enclosure
  | quotes
  /-- The braces of a parameter; a pair of quotes in them may be open. -/
  | braces (inQuotes : Bool)
  | document
  /-- An expression, with the number of its own parentheses that are open. -/
  | parentheses (depth : Nat)
deriving DecidableEq

/-- The commands that are wanted: those of one line, or those of several lines, of which there may
have to be one. -/
inductive Extent
  | line
  | several
  | any
deriving DecidableEq

/-- The parts of a simple command, the last of them first. -/
structure Parts where
  line : Nat
  assignments : List (String × Word)
  words : List Word
  redirects : List Redirect

namespace Enclosure

def escapes (e : Enclosure) (c : Char) : Bool :=
  match c with
  | '\\' | '\x60' | '$' => true
  | '"' => e ≠ .document
  | '\x7d' => match e with
    | .braces _ => true
    | _ => false
  | _ => false

/-- What is wrong with a text that ends before its enclosure does. In a document quotes are no more
than text. -/
def flaw (inDocument : Bool) : Enclosure → String
  | parentheses _ => "Missing '))'"
  | braces _ => if inDocument then "Missing '\x7d'" else "Unterminated quoted string"
  | _ => "Unterminated quoted string"

end Enclosure

namespace Reading

def fail {α : Type} (message : String) : Reading α := do
  throw ⟨(← get).source.flawLine, "Syntax error: " ++ message⟩

def unexpected {α : Type} (t : Token) (expecting : Option Token) : Reading α :=
  fail (t.shown ++ " unexpected" ++
    match expecting with
    | some e => " (expecting " ++ e.shown ++ ")"
    | none => "")

def look : Reading (Option Char) :=
  modifyGet fun r =>
    let s := r.source.joined
    (s.rest.head?, { r with source := s })

def skip : Reading Unit :=
  modify fun r => { r with source := { r.source with rest := r.source.rest.tail } }

def skipIf (c : Char) : Reading Bool := do
  if (← look) = some c then
    skip
    return true
  else return false

def run (p : Char → Bool) : Reading String :=
  modifyGet fun r =>
    let (taken, rest) := r.source.rest.span p
    (String.ofList taken, { r with source := { r.source with rest } })

def passBreak : Reading Unit :=
  modify fun r => { r with source := r.source.passBreak r.source.rest.tail }

def putBack (t : Token) : Reading Unit :=
  modify fun r => { r with waiting := some t }

def single : Reading String := do
  let r ← get
  let (taken, rest) := r.source.rest.span (· ≠ '\'')
  let line := r.source.line + taken.count '\n'
  set { r with source := { r.source with rest := rest.tail, line } }
  if rest.isEmpty then fail "Unterminated quoted string" else return String.ofList taken

def delimiter : Nat → Reading (String × Bool)
  | 0 => return ("", false)
  | fuel + 1 => do
    match ← look with
    | none => return ("", false)
    | some c =>
      if endsWord c then return ("", false)
      else
        skip
        let (here, quoted) ←
          if c = '\'' then do pure (← single, true)
          else if c = '"' then do
            let s ← run (· ≠ '"')
            if ← skipIf '"' then pure (s, true) else fail "Unterminated quoted string"
          else if c = '\\' then do
            let s := ((← get).source.rest.head?.map Char.toString).getD "\\"
            skip
            pure (s, true)
          else pure (c.toString, false)
        let (rest, quotedToo) ← delimiter fuel
        return (here ++ rest, quoted || quotedToo)

def documentText (stripsTabs : Bool) (ending : String) : Reading Source :=
  modifyGet fun r =>
    let s := r.source
    let behind := s.rest.drop ((restOfLine .bare false s.rest).length + 1)
    let lines := behind.drop s.ahead
    let (text, size) := documentLines stripsTabs ending.toList (s.rest.length + 1) lines
    let line := s.line + 1 + (behind.take s.ahead).count '\n'
    (⟨text, line, 0, some ((lines.take size).count '\n' - text.count '\n')⟩,
      { r with source := { s with ahead := s.ahead + size } })

def redirection (descriptor : Option Nat) : Reading Token := do
  let c ← look
  skip
  let aimed (default : Nat) (direction : Direction) (stripsTabs : Bool) : Reading Token :=
    return .redirect (descriptor.getD default) direction stripsTabs
  if c = some '>' then
    if ← skipIf '>' then aimed 1 .append false
    else if ← skipIf '&' then aimed 1 .copy false
    else
      let _ ← skipIf '|'
      aimed 1 .write false
  else if ← skipIf '<' then aimed 0 .document (← skipIf '-')
  else if ← skipIf '&' then aimed 0 .copy false
  else if ← skipIf '>' then aimed 0 .readWrite false
  else aimed 0 .read false

def within {α : Type} (source : Source) (reading : Reading α) : Reading α := do
  let outer ← get
  set (Reader.mk source none)
  let a ← reading
  set outer
  return a

mutual

def word (braced : Bool) : Nat → Reading Word
  | 0 => return []
  | fuel + 1 => do
    match ← look with
    | none => if braced then fail "Missing '\x7d'" else return []
    | some c =>
      if c = '\x7d' && braced then
        skip
        return []
      else if endsWord c && !braced then return []
      else
        let here ← if c = '\'' then do
            skip
            pure (Word.quote [.text true (← single)])
          else if c = '"' then do
            skip
            pure (Word.quote (← enclosed .quotes fuel))
          else if c = '\\' then do
            skip
            match (← get).source.rest.head? with
            | none => pure [.text true "\\"]
            | some d =>
              skip
              pure [.text true d.toString]
          else if c = '$' then do
            skip
            substitution false fuel
          else if c = '\x60' then do
            skip
            pure [← backQuoted false fuel]
          else if c = '\n' then do
            passBreak
            pure [.text false "\n"]
          else
            let s ← run isOrdinary
            if s.isEmpty then
              skip
              pure [Segment.text false c.toString]
            else pure [Segment.text false s]
        return here.foldr Word.push (← word braced fuel)

def enclosed (e : Enclosure) : Nat → Reading Word
  | 0 => return []
  | fuel + 1 => do
    let literally (c : Char) (e : Enclosure) : Reading Word := do
      skip
      return Word.push (.text true c.toString) (← enclosed e fuel)
    match ← look with
    | none =>
      if e = .document then return [] else fail (e.flaw (← get).source.behind.isSome)
    | some c =>
      match e, c with
      | .quotes, '"' =>
        skip
        return []
      | .braces inQuotes, '"' =>
        skip
        enclosed (.braces !inQuotes) fuel
      | .braces false, '\x7d' =>
        skip
        return []
      | .parentheses n, '(' => literally c (.parentheses (n + 1))
      | .parentheses (n + 1), ')' => literally c (.parentheses n)
      | .parentheses 0, ')' =>
        skip
        if ← skipIf ')' then return []
        else return Word.push (.text true ")") (← enclosed e fuel)
      | _, _ =>
        let here ← if c = '\\' then do
            skip
            match (← get).source.rest.head? with
            | none => pure [.text true "\\"]
            | some d =>
              if e.escapes d then
                skip
                pure [.text true d.toString]
              else pure [.text true "\\"]
          else if c = '$' then do
            skip
            substitution true fuel
          else if c = '\x60' then do
            skip
            pure [← backQuoted true fuel]
          else if c = '\n' then do
            passBreak
            pure [.text true "\n"]
          else
            let s ← run fun c => isOrdinary c || isBlankChar c
            if s.isEmpty then
              skip
              pure [Segment.text true c.toString]
            else pure [Segment.text true s]
        return here.foldr Word.push (← enclosed e fuel)

def substitution (quoted : Bool) : Nat → Reading Word
  | 0 => return []
  | fuel + 1 => do
    match ← look with
    | none => return [.text quoted "$"]
    | some c =>
      if c = '(' then
        skip
        if ← skipIf '(' then return [.sum quoted (← enclosed (.parentheses 0) fuel)]
        else
          let body ← list .any none fuel
          let t ← token false false fuel
          if t.isSign ")" then return [.output quoted (body.getD .nothing)]
          else unexpected t (some (.sign ")"))
      else if c = '\x7b' then
        skip
        return [← braced quoted fuel]
      else if isNameStart c then
        return [.parameter quoted (← run isNameChar) .plain]
      else if c.isDigit || isSpecialParameter c then
        skip
        return [.parameter quoted c.toString .plain]
      else return [.text quoted "$"]

def backQuoted (quoted : Bool) : Nat → Reading Segment
  | 0 => return .text quoted ""
  | fuel + 1 => do
    let r ← get
    let size := r.source.rest.length
    match untilBackQuote quoted r.source.rest with
    | none =>
      set { r with source := r.source.pass size }
      fail "EOF in backquote substitution"
    | some (text, rest) =>
      set { r with source := r.source.pass (size - rest.length) }
      let body ← within ⟨text, 1, 0, none⟩ (list .any none fuel)
      return .output quoted (body.getD .nothing)

def braced (quoted : Bool) : Nat → Reading Segment
  | 0 => return .text quoted ""
  | fuel + 1 => do
    let named (name : String) : Reading Segment :=
      return .parameter quoted name (← modifier quoted fuel)
    let spoilt : Reading Segment := do
      let _ ← inBraces quoted fuel
      return .parameter quoted "" .bad
    let sized (name : String) : Reading Segment := do
      if ← skipIf '\x7d' then return .parameter quoted name .size else spoilt
    match ← look with
    | none => spoilt
    | some c =>
      if isNameStart c then named (← run isNameChar)
      else if c.isDigit then named (← run Char.isDigit)
      else if c = '#' then
        skip
        match ← look with
        | none => spoilt
        | some d =>
          if isNameStart d then sized (← run isNameChar)
          else if d.isDigit then sized (← run Char.isDigit)
          else if d ≠ '\x7d' && (← get).source.rest[1]? = some '\x7d' then
            skip
            if isSpecialParameter d then sized d.toString else spoilt
          else named "#"
      else if c = '\x7d' then spoilt
      else
        skip
        if isSpecialParameter c then named c.toString else spoilt

/-- What is made of a parameter, up to the closing brace. A sign without a meaning is passed,
whatever it is. -/
def modifier (quoted : Bool) : Nat → Reading Modifier
  | 0 => return .bad
  | fuel + 1 => do
    let spoilt : Reading Modifier := do
      skip
      let _ ← inBraces quoted fuel
      return .bad
    let fallback (kind : Fallback) (emptyToo : Bool) : Reading Modifier := do
      skip
      return .fallback kind emptyToo (← inBraces quoted fuel)
    let strip (c : Char) : Reading Modifier := do
      skip
      let longest ← skipIf c
      return .strip (c = '%') longest (← word true fuel)
    if ← skipIf '\x7d' then return .plain
    else
      let emptyToo ← skipIf ':'
      match ← look with
      | some '-' => fallback .use emptyToo
      | some '=' => fallback .assign emptyToo
      | some '?' => fallback .complain emptyToo
      | some '+' => fallback .replace emptyToo
      | some '#' => if emptyToo then spoilt else strip '#'
      | some '%' => if emptyToo then spoilt else strip '%'
      | some '\x7d' =>
        skip
        let _ ← inBraces quoted fuel
        return .plain
      | _ => spoilt

def inBraces (quoted : Bool) : Nat → Reading Word
  | 0 => return []
  | fuel + 1 => if quoted then enclosed (.braces false) fuel else word true fuel

def lexeme : Nat → Reading Token
  | 0 => return .ending
  | fuel + 1 => do
    match ← look with
    | none => return .ending
    | some c =>
      let sign (s : String) : Reading Token := do
        skip
        return .sign s
      let doubled (s : String) : Reading Token := do
        skip
        if ← skipIf c then return .sign (s ++ s) else return .sign s
      match c with
      | ' ' | '\t' =>
        skip
        lexeme fuel
      | '#' =>
        let _ ← run (· ≠ '\n')
        lexeme fuel
      | '\n' =>
        modify fun r => { r with source := r.source.nextLine r.source.rest.tail }
        return .sign "\n"
      | '&' => doubled "&"
      | '|' => doubled "|"
      | ';' => doubled ";"
      | '(' => sign "("
      | ')' => sign ")"
      | '<' => redirection none
      | '>' => redirection none
      | _ =>
        let next := (← get).source.rest[1]?
        if c.isDigit && (next = some '<' || next = some '>') then
          skip
          redirection (some (c.toNat - '0'.toNat))
        else return .word (← word false fuel)

/-- The next token. Line feeds before it may be passed, and keywords be told from other words. -/
def token (passesLines knowsKeywords : Bool) : Nat → Reading Token
  | 0 => return .ending
  | fuel + 1 => do
    let t ← match (← get).waiting with
      | some t => do
        modify fun r => { r with waiting := none }
        pure t
      | none => lexeme fuel
    if passesLines && t.isSign "\n" then token passesLines knowsKeywords fuel
    else return if knowsKeywords then t.asKeyword else t

def list (extent : Extent) (before : Option Script) : Nat → Reading (Option Script)
  | 0 => return before
  | fuel + 1 => do
    let t ← token (extent ≠ .line) true fuel
    if t.isSign "\n" then return before
    else
      putBack t
      if t.isEnding || (extent = .any && t.endsList) then return before
      else
        let next ← andOr fuel
        let t ← token false false fuel
        let next := if t.isSign "&" then .background next else next
        let all := match before with
          | some s => .inTurn s next
          | none => next
        if t.isEnding then
          putBack t
          return some all
        else
          let goesOn := t.isSign "&" || t.isSign ";"
          if t.isSign "\n" || !goesOn then putBack t
          if t.isSign "\n" || goesOn then
            list (if extent = .line then .line else .any) (some all) fuel
          else if extent = .line then unexpected t none
          else return some all

def andOr : Nat → Reading Script
  | 0 => return .nothing
  | fuel + 1 => do
    andOrFrom (← pipeline fuel) fuel

def andOrFrom (left : Script) : Nat → Reading Script
  | 0 => return left
  | fuel + 1 => do
    let t ← token false false fuel
    if t.isSign "&&" then andOrFrom (.both left (← pipeline fuel)) fuel
    else if t.isSign "||" then andOrFrom (.either left (← pipeline fuel)) fuel
    else
      putBack t
      return left

def pipeline : Nat → Reading Script
  | 0 => return .nothing
  | fuel + 1 => do
    let t ← token true true fuel
    let negated := t.isKeyword "!"
    if !negated then putBack t
    let first ← command false fuel
    let rest ← stages fuel
    let all := if rest.isEmpty then first else .pipe (first :: rest)
    return if negated then .negate all else all

def stages : Nat → Reading (List Script)
  | 0 => return []
  | fuel + 1 => do
    let t ← token false false fuel
    if t.isSign "|" then
      let s ← command true fuel
      return s :: (← stages fuel)
    else
      putBack t
      return []

def command (passesLines : Bool) : Nat → Reading Script
  | 0 => return .nothing
  | fuel + 1 => do
    let line := (← get).source.line
    let construct (s : Script) : Reading Script := do
      let rs ← redirects true fuel
      return if rs.isEmpty then s else .redirected line s rs
    match ← token passesLines true fuel with
    | .keyword "if" => construct (← choice fuel)
    | .keyword "while" => construct (← loop false fuel)
    | .keyword "until" => construct (← loop true fuel)
    | .keyword "for" =>
      let (name, words, body) ← each fuel
      construct (.each line name words body)
    | .keyword "case" =>
      let (subject, clauses) ← select fuel
      construct (.select line subject clauses)
    | .keyword "\x7b" =>
      let body ← commands fuel
      expect true "\x7d" fuel
      construct body
    | .sign "(" =>
      let body ← commands fuel
      expect false ")" fuel
      return .subshell line body (← redirects true fuel)
    | .word w =>
      putBack (.word w)
      simple ⟨(← get).source.line, [], [], []⟩ fuel
    | .redirect descriptor direction stripsTabs =>
      putBack (.redirect descriptor direction stripsTabs)
      simple ⟨(← get).source.line, [], [], []⟩ fuel
    | t => unexpected t none

def commands : Nat → Reading Script
  | 0 => return .nothing
  | fuel + 1 => return (← list .several none fuel).getD .nothing

def expect (isKeyword : Bool) (text : String) : Nat → Reading Unit
  | 0 => return ()
  | fuel + 1 => do
    let t ← token false true fuel
    if isKeyword then
      if t.isKeyword text then return () else unexpected t (some (.keyword text))
    else if t.isSign text then return () else unexpected t (some (.sign text))

def choice : Nat → Reading Script
  | 0 => return .nothing
  | fuel + 1 => do
    let test ← commands fuel
    expect true "then" fuel
    let yes ← commands fuel
    let t ← token false true fuel
    if t.isKeyword "elif" then return .choice test yes (← choice fuel)
    else
      let no ← if t.isKeyword "else" then commands fuel else do
        putBack t
        pure .nothing
      expect true "fi" fuel
      return .choice test yes no

def loop (whileFails : Bool) : Nat → Reading Script
  | 0 => return .nothing
  | fuel + 1 => do
    let test ← commands fuel
    return .loop whileFails test (← turn false fuel)

def turn (passesLines : Bool) : Nat → Reading Script
  | 0 => return .nothing
  | fuel + 1 => do
    let t ← token passesLines true fuel
    if !t.isKeyword "do" then unexpected t (some (.keyword "do"))
    let body ← commands fuel
    expect true "done" fuel
    return body

/-- The variable of a loop, the words it stands for, and what is done for each of them. -/
def each : Nat → Reading (String × List Word × Script)
  | 0 => return ("", [], .nothing)
  | fuel + 1 => do
    let name? := match ← token false false fuel with
      | .word w => w.bare?.filter fun s => isName s.toList
      | _ => none
    match name? with
    | none => fail "Bad for loop variable"
    | some name =>
      let t ← token true true fuel
      let words ← if t.isKeyword "in" then wordsHere fuel else do
        if !t.isSign ";" then putBack t
        pure [[.parameter true "@" .plain]]
      return (name, words, ← turn true fuel)

def wordsHere : Nat → Reading (List Word)
  | 0 => return []
  | fuel + 1 => do
    match ← token false false fuel with
    | .word w => return w :: (← wordsHere fuel)
    | .sign "\n" | .sign ";" => return []
    | t => unexpected t none

def select : Nat → Reading (Word × List (List Word × Script))
  | 0 => return ([], [])
  | fuel + 1 => do
    match ← token false false fuel with
    | .word w =>
      let t ← token true true fuel
      if !t.isKeyword "in" then unexpected t (some (.keyword "in"))
      return (w, ← clauses fuel)
    | t => unexpected t (some (.word []))

def clauses : Nat → Reading (List (List Word × Script))
  | 0 => return []
  | fuel + 1 => do
    let t ← token true true fuel
    if t.isKeyword "esac" then return []
    else
      let t ← if t.isSign "(" then token false false fuel else pure t
      let patterns ← patternsFrom t fuel
      let body := (← list .any none fuel).getD .nothing
      let t ← token true true fuel
      if t.isKeyword "esac" then return [(patterns, body)]
      else if t.isSign ";;" then return (patterns, body) :: (← clauses fuel)
      else unexpected t (some (.sign ";;"))

def patternsFrom (first : Token) : Nat → Reading (List Word)
  | 0 => return []
  | fuel + 1 => do
    let t ← token false false fuel
    if t.isSign "|" then return first.asWord :: (← patternsFrom (← token false false fuel) fuel)
    else if t.isSign ")" then return [first.asWord]
    else unexpected t (some (.sign ")"))

def redirects (knowsKeywords : Bool) : Nat → Reading (List Redirect)
  | 0 => return []
  | fuel + 1 => do
    match ← token false knowsKeywords fuel with
    | .redirect descriptor direction stripsTabs =>
      let target ← target direction stripsTabs fuel
      return ⟨descriptor, direction, target⟩ :: (← redirects knowsKeywords fuel)
    | t =>
      putBack t
      return []

def target (direction : Direction) (stripsTabs : Bool) : Nat → Reading Word
  | 0 => return []
  | fuel + 1 => do
    if direction = .document then
      let _ ← run isBlankChar
      let next ← look
      if next.all endsWord then unexpected (← lexeme fuel) none
      let (ending, quoted) ← delimiter (fuel + 1)
      let text ← documentText stripsTabs ending
      if quoted then return [.text true (String.ofList text.rest)]
      else within text (enclosed .document fuel)
    else
      match ← token false false fuel with
      | .word w => return w
      | t => unexpected t none

def simple (p : Parts) : Nat → Reading Script
  | 0 => return .nothing
  | fuel + 1 => do
    let t ← token false false fuel
    match t with
    | .word w =>
      match w.assignment?, p.words with
      | some a, [] => simple { p with assignments := a :: p.assignments } fuel
      | _, _ => simple { p with words := w :: p.words } fuel
    | .redirect descriptor direction stripsTabs =>
      let target ← target direction stripsTabs fuel
      simple { p with redirects := ⟨descriptor, direction, target⟩ :: p.redirects } fuel
    | _ =>
      match t.isSign "(", p.assignments, p.words, p.redirects with
      | true, [], [w], [] =>
        let t ← token false false fuel
        if !t.isSign ")" then unexpected t (some (.sign ")"))
        match w.bare?.filter fun s => isName s.toList && !specialBuiltins.contains s with
        | none => fail "Bad function name"
        | some name => return .define name (← command true fuel)
      | _, _, _, _ =>
        putBack t
        return .simple p.line p.assignments.reverse p.words.reverse p.redirects.reverse

end

end Reading

/-- The commands of the next line and what follows it, or nothing at the end of the text. A line
without commands is a script that does nothing. -/
def Reader.next (r : Reader) : Except ReadError (Option (Option Script × Reader)) := do
  let depth := 16 * (r.source.rest.length + 4)
  let (script, r) ← StateT.run (Reading.list .line none depth) r
  match script, r.waiting with
  | none, some .ending => return none
  | _, _ => return some (script, { r with waiting := none })

end QualityGate.Shell
