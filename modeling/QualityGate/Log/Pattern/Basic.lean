import QualityGate.Log.Pattern.CharSet

namespace QualityGate.Log

inductive Edge
  | textStart
  | textEnd
  /-- The start or the end of a line, which carriage returns may end too. -/
  | lineStart (returns : Bool)
  | lineEnd (returns : Bool)
  | wordEdge
  | noWordEdge
  | wordStart
  | wordEnd
deriving DecidableEq, Repr

/-- A place is what is asked for. It is known by the characters before it and after it; words are
those of ASCII. -/
def Edge.holds (before after : Option Char) : Edge → Bool
  | textStart => before.isNone
  | textEnd => after.isNone
  | lineStart returns =>
    before.isNone || before = some '\n' ||
      (returns && before = some '\r' && after ≠ some '\n')
  | lineEnd returns =>
    after.isNone || (returns && after = some '\r') ||
      (after = some '\n' && !(returns && before = some '\r'))
  | wordEdge => before.any isWord != after.any isWord
  | noWordEdge => before.any isWord == after.any isWord
  | wordStart => !before.any isWord && after.any isWord
  | wordEnd => before.any isWord && !after.any isWord
where
  isWord : Char → Bool := CharSet.asciiWord.has

inductive Pattern
  | empty
  | one (s : CharSet)
  | edge (e : Edge)
  | seq (p q : Pattern)
  | alt (p q : Pattern)
  /-- Once or not at all, where the one or the other is preferred. -/
  | optional (greedy : Bool) (p : Pattern)
  /-- Any number of times, as often as possible or as seldom as possible. -/
  | many (greedy : Bool) (p : Pattern)
  /-- The same, but once at least. -/
  | repeated (greedy : Bool) (p : Pattern)
deriving DecidableEq, Repr

namespace Pattern

def isNullable : Pattern → Bool
  | empty | edge _ | optional _ _ | many _ _ => true
  | one _ => false
  | seq p q => p.isNullable && q.isNullable
  | alt p q => p.isNullable || q.isNullable
  | repeated _ p => p.isNullable

def ofList : List Pattern → Pattern
  | [] => empty
  | [p] => p
  | p :: ps => seq p (ofList ps)

def choice : List Pattern → Pattern
  | [] => empty
  | [p] => p
  | p :: ps => alt p (choice ps)

end Pattern
end QualityGate.Log
