import QualityGate.Log.Event
import QualityGate.Log.Pattern.Automaton
import QualityGate.Log.Pattern.Reader
import QualityGate.Number.Notation
import QualityGate.Text.Quoted

namespace QualityGate.Log

/-- What a field of a span has to be. Truth values and numbers can be asked for, but the fields of
spans are texts. -/
inductive Wanted
  | noText (s : String)
  | fitting (text : String) (p : Pattern)
deriving DecidableEq, Repr

def Wanted.accepts (s : String) : Wanted → Bool
  | noText _ => false
  | fitting _ p => p.fits s

structure FieldWish where
  name : String
  wanted : Option Wanted
deriving DecidableEq, Repr

/-- The events that a directive is for, and the verbosity up to which they are logged. -/
structure Directive where
  target : Option String
  span : Option String
  field : Option FieldWish
  bound : Nat
deriving DecidableEq, Repr

inductive DirectiveFlaw
  | malformed
  | level
  | pattern (flaw : Pattern.Flaw)
  /-- A part of the text starts or ends within a character. -/
  | torn
deriving DecidableEq, Repr

def Pattern.Flaw.message : Flaw → String
  | malformed => "error building NFA"
  | wordEdges =>
    "unsupported regex feature for DFAs: cannot build DFAs for regexes with Unicode word " ++
      "boundaries; switch to ASCII word boundaries, or heuristically enable Unicode word " ++
      "boundaries or use a different regex engine"

def DirectiveFlaw.message : DirectiveFlaw → String
  | malformed | torn => "invalid filter directive"
  | level =>
    "error parsing level filter: expected one of " ++
      ", ".intercalate (["off", "error", "warn", "info", "debug", "trace"].map Text.Quoted.text) ++
      ", or a number 0-5"
  | pattern flaw => "invalid field filter: " ++ flaw.message

namespace Directive

def ofLevel (level : Level) : Directive :=
  ⟨none, none, none, level.verbosity⟩

def isDynamic (d : Directive) : Bool :=
  d.span.isSome || d.field.isSome

def isStatic (d : Directive) : Bool :=
  d.span.isNone && d.field.all fun f => f.wanted.isNone

def sameEvents (d e : Directive) : Bool :=
  d.target == e.target && d.span == e.span && d.field == e.field

def isAimedAt (d : Directive) (target : String) : Bool :=
  d.target.all fun t => t.toList.isPrefixOf target.toList

def concerns (d : Directive) (e : Event) : Bool :=
  d.isAimedAt e.scope.target && d.field.all fun f => e.fields.contains f.name

def covers (d : Directive) (s : Span) : Bool :=
  d.isAimedAt Span.target && d.span.all (· == Span.name) && d.field.all fun f =>
    match s.fields.lookup f.name, f.wanted with
    | none, _ => false
    | some _, none => true
    | some value, some wanted => wanted.accepts value

def isLessSpecial (d e : Directive) : Bool :=
  let size (d : Directive) : Nat := (d.target.map fun t => t.utf8ByteSize + 1).getD 0
  let name (d : Directive) : String := (d.field.map FieldWish.name).getD ""
  size d < size e || (size d = size e && (
    (d.field.isNone && e.field.isSome) ||
      (d.field.isSome == e.field.isSome && name d ≤ name e)))

def lowered (s : String) : String :=
  String.ofList (s.toList.map Char.toLower)

/-- A level by its name in any case, or by its number; zero and off stand for no events at all. -/
def bound? (s : String) : Option Nat :=
  let digits := match s.toList with
    | '+' :: cs => cs
    | cs => cs
  let named := (Level.all.find? fun l => lowered l.name = lowered s).map Level.verbosity
  ((Text.Digits.natural? 10 digits).filter (· ≤ 5)).or
    (named.or (if lowered s = "off" then some 0 else none))

def dropBytes? : Nat → List Char → Except DirectiveFlaw (List Char)
  | 0, cs => .ok cs
  | _ + 1, [] => .error .torn
  | n + 1, c :: cs =>
    if n + 1 < c.utf8Size then .error .torn else dropBytes? (n + 1 - c.utf8Size) cs
termination_by _ cs => cs.length

def takeBytes? : Nat → List Char → Except DirectiveFlaw (List Char)
  | 0, _ => .ok []
  | _ + 1, [] => .error .torn
  | n + 1, c :: cs =>
    if n + 1 < c.utf8Size then .error .torn
    else (takeBytes? (n + 1 - c.utf8Size) cs).map (c :: ·)
termination_by _ cs => cs.length

def slice? (cs : List Char) (start stop : Nat) : Except DirectiveFlaw String := do
  return String.ofList (← takeBytes? (stop - start) (← dropBytes? start cs))

def sliceFrom? (cs : List Char) (start : Nat) : Except DirectiveFlaw String := do
  return String.ofList (← dropBytes? start cs)

/-- What is wanted of a field: a truth value, a number, or a text that fits a pattern. -/
def wanted? (s : String) : Except DirectiveFlaw Wanted :=
  if s = "true" || s = "false" || (Number.Notation.double? s.toList).isSome then .ok (.noText s)
  else match Pattern.ofText s with
    | .ok p => .ok (.fitting s p)
    | .error flaw => .error (.pattern flaw)

def fieldWish? (s : String) : Except DirectiveFlaw FieldWish :=
  match s.splitOn "=" with
  | name :: value :: _ => (wanted? value).map fun w => ⟨name, some w⟩
  | _ => if s.isEmpty then .error .malformed else .ok ⟨s, none⟩

def level? (s : String) : Except DirectiveFlaw Nat :=
  if s.isEmpty then .ok Level.trace.verbosity
  else match bound? s with
    | some bound => .ok bound
    | none => .error .level

/-- The part of a directive that is being read, and where it starts. -/
inductive Part
  | head
  | target
  | span (start : Nat)
  | field (start : Nat)
  | fieldEnd
  | spanEnd
  | level (start : Nat)

def mayStart (c : Char) : Bool :=
  c = '-' || c = ':' || c = '_' || Text.Alphanumeric.isAlphanumeric c

def step (whole : List Char) (place : Nat) (c : Char) (d : Directive) :
    Part → Except DirectiveFlaw (Directive × Part)
  | .head =>
    if c = '[' then .ok (d, .span (place + 1))
    else if mayStart c then .ok (d, .target)
    else .error .malformed
  | .target =>
    if c = '=' then do
      return ({ d with target := some (← slice? whole 0 place) }, .level (place + 1))
    else if c = '[' then do
      return ({ d with target := some (← slice? whole 0 place) }, .span (place + 1))
    else .ok (d, .target)
  | .span start =>
    if c = ']' then do return ({ d with span := some (← slice? whole start place) }, .spanEnd)
    else if c = '\x7b' then do
      let name ← slice? whole start place
      return ({ d with span := if name.isEmpty then none else some name }, .field (place + 1))
    else .ok (d, .span start)
  | .field start =>
    if c = '\x7d' then do
      return ({ d with field := some (← fieldWish? (← slice? whole start place)) }, .fieldEnd)
    else .ok (d, .field start)
  | .fieldEnd => if c = ']' then .ok (d, .spanEnd) else .error .malformed
  | .spanEnd => if c = '=' then .ok (d, .level (place + 1)) else .error .malformed
  | .level start => .ok (d, .level start)

def steps (whole : List Char) : Nat → List Char → Directive → Part →
    Except DirectiveFlaw (Directive × Part)
  | _, [], d, part => .ok (d, part)
  | place, c :: cs, d, part => do
    let (d, part) ← step whole place c d part
    steps whole (place + c.utf8Size) cs d part

/-- A directive from its text. Blanks around it do not count for its structure, but its parts are
taken from the whole text by their places without the blanks before it. -/
def ofText (s : String) : Except DirectiveFlaw Directive := do
  let whole := s.toList
  let (d, part) ←
    steps whole 0 (Text.Blank.trim whole) ⟨none, none, none, Level.trace.verbosity⟩ .head
  match part with
  | .target =>
    match bound? s with
    | some bound => return { d with bound }
    | none => return { d with target := some s }
  | .level start => return { d with bound := ← level? (← sliceFrom? whole start) }
  | .spanEnd => return d
  | .head | .span _ | .field _ | .fieldEnd => .error .malformed

end Directive
end QualityGate.Log
