import QualityGate.Json.Basic
import QualityGate.Number.Notation

namespace QualityGate.Json

open Text.Digits

def escape (c : Char) : List Char :=
  if c = '"' then ['\\', '"']
  else if c = '\\' then ['\\', '\\']
  else if c = '\n' then ['\\', 'n']
  else if c = '\r' then ['\\', 'r']
  else if c = '\t' then ['\\', 't']
  else if c = '\x08' then ['\\', 'b']
  else if c = '\x0C' then ['\\', 'f']
  else if c.toNat < 0x20 then ['\\', 'u'] ++ hex 4 c.toNat
  else [c]

def quote (s : String) : List Char :=
  '"' :: (s.toList.flatMap escape ++ ['"'])

mutual

def compactChars : Json → List Char
  | null => "null".toList
  | bool true => "true".toList
  | bool false => "false".toList
  | integer z => (signed z).toList
  | real x => (Number.Notation.json x).toList
  | string s => quote s
  | array items => '[' :: compactItems items
  | object members => '\x7b' :: compactMembers members

def compactItems : List Json → List Char
  | [] => [']']
  | [item] => compactChars item ++ [']']
  | item :: next :: items => compactChars item ++ ',' :: compactItems (next :: items)

def compactMembers : List (String × Json) → List Char
  | [] => ['\x7d']
  | [(name, value)] => quote name ++ ':' :: (compactChars value ++ ['\x7d'])
  | (name, value) :: next :: members =>
    quote name ++ ':' :: (compactChars value ++ ',' :: compactMembers (next :: members))

end

def compact (j : Json) : String :=
  String.ofList (compactChars j)

def breakLine (level : Nat) : List Char :=
  '\n' :: List.replicate (2 * level) ' '

mutual

/-- The value with a line for each item and each member, which stand one level further in. -/
def prettyChars (level : Nat) : Json → List Char
  | array (item :: items) => '[' :: prettyItems level (item :: items)
  | object (member :: members) => '\x7b' :: prettyMembers level (member :: members)
  | null => "null".toList
  | bool true => "true".toList
  | bool false => "false".toList
  | integer z => (signed z).toList
  | real x => (Number.Notation.json x).toList
  | string s => quote s
  | array [] => ['[', ']']
  | object [] => ['\x7b', '\x7d']

def prettyItems (level : Nat) : List Json → List Char
  | [] => []
  | [item] => breakLine (level + 1) ++ (prettyChars (level + 1) item ++ (breakLine level ++ [']']))
  | item :: next :: items =>
    breakLine (level + 1) ++
      (prettyChars (level + 1) item ++ ',' :: prettyItems level (next :: items))

def prettyMembers (level : Nat) : List (String × Json) → List Char
  | [] => []
  | [(name, value)] =>
    breakLine (level + 1) ++ (quote name ++ ':' :: ' ' ::
      (prettyChars (level + 1) value ++ (breakLine level ++ ['\x7d'])))
  | (name, value) :: next :: members =>
    breakLine (level + 1) ++ (quote name ++ ':' :: ' ' ::
      (prettyChars (level + 1) value ++ ',' :: prettyMembers level (next :: members)))

end

def pretty (j : Json) : String :=
  String.ofList (prettyChars 0 j)

end QualityGate.Json
