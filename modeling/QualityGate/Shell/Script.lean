
namespace QualityGate.Shell

inductive Fallback
  | use
  | assign
  | complain
  /-- The word counts if the parameter is set. -/
  | replace
deriving DecidableEq, Repr

inductive Direction
  | read
  | write
  | append
  | readWrite
  /-- The descriptor becomes another name for the one that is given. -/
  | copy
  /-- The target is read itself. -/
  | document
deriving DecidableEq, Repr

mutual

inductive Modifier
  | plain
  | size
  | fallback (kind : Fallback) (emptyToo : Bool) (word : List Segment)
  | strip (atEnd longest : Bool) (pattern : List Segment)
  /-- What is written after the parameter is nothing that could be made of it. -/
  | bad

inductive Segment
  | text (quoted : Bool) (text : String)
  | parameter (quoted : Bool) (name : String) (modifier : Modifier)
  /-- What a script writes. -/
  | output (quoted : Bool) (script : Script)
  /-- The value of an arithmetic expression. -/
  | sum (quoted : Bool) (expression : List Segment)

inductive Redirect
  | mk (descriptor : Nat) (direction : Direction) (target : List Segment)

inductive Script
  | nothing
  /-- A command with its assignments, words and redirects, and the line it stands on. -/
  | simple (line : Nat) (assignments : List (String × List Segment)) (words : List (List Segment))
      (redirects : List Redirect)
  | pipe (stages : List Script)
  | background (body : Script)
  | negate (body : Script)
  | both (left right : Script)
  | either (left right : Script)
  | inTurn (left right : Script)
  | subshell (line : Nat) (body : Script) (redirects : List Redirect)
  | choice (test yes no : Script)
  /-- The body runs as long as the test succeeds or, if that is asked for, fails. -/
  | loop (whileFails : Bool) (test body : Script)
  | each (line : Nat) (name : String) (words : List (List Segment)) (body : Script)
  | select (line : Nat) (subject : List Segment) (clauses : List (List (List Segment) × Script))
  | redirected (line : Nat) (body : Script) (redirects : List Redirect)
  | define (name : String) (body : Script)

end

abbrev Word := List Segment

instance : Inhabited Script := ⟨.nothing⟩

namespace Word

def bare? : Word → Option String
  | [.text false s] => some s
  | _ => none

end Word
end QualityGate.Shell
