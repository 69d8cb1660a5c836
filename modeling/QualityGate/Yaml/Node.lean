import QualityGate.Yaml.Token

namespace QualityGate.Yaml

def Tag.localName? : Tag → Option String
  | [0x21] => some "!"
  | 0x21 :: name => Text.Utf8.decode? name
  | _ => none

structure Marks where
  anchor : Option Nat
  tag : Option Tag
deriving Repr, Inhabited

namespace Marks

def none : Marks :=
  ⟨.none, .none⟩

def isNone (m : Marks) : Bool :=
  m.anchor.isNone && m.tag.isNone

end Marks

inductive Node
  | scalar (marks : Marks) (plain : Bool) (text : String)
  | sequence (marks : Marks) (items : List Node)
  | mapping (marks : Marks) (members : List (Node × Node))
  /-- The node with an anchor once more. -/
  | again (anchor : Nat)
deriving Repr, Inhabited

namespace Node

def anchor? : Node → Option Nat
  | scalar marks _ _ | sequence marks _ | mapping marks _ => marks.anchor
  | again _ => none

mutual

def parts : Node → List Node
  | scalar marks plain text => [scalar marks plain text]
  | sequence marks items => sequence marks items :: partsOfItems items
  | mapping marks members => mapping marks members :: partsOfMembers members
  | again anchor => [again anchor]

def partsOfItems : List Node → List Node
  | [] => []
  | n :: ns => parts n ++ partsOfItems ns

def partsOfMembers : List (Node × Node) → List Node
  | [] => []
  | (k, n) :: rest => parts k ++ parts n ++ partsOfMembers rest

end

/-- How much a node counts for the size of a document: collections have a start and an end. -/
def weight : Node → Nat
  | scalar .. | again _ => 1
  | sequence .. | mapping .. => 2

def empty : Node :=
  scalar .none true ""

/-- What is left to read, the numbers of the anchors so far, the tag handles of the document, and
whether its version has been told. -/
structure Reader where
  tokens : List Token
  anchors : List (String × Nat)
  handles : List (String × Tag)
  versioned : Bool

abbrev ReadM := StateT Reader Option

def peek : ReadM (Option Token) :=
  return (← get).tokens.head?

def advance : ReadM Unit :=
  modify fun r => { r with tokens := r.tokens.tail }

def accept (t : Token) : ReadM Bool := do
  if (← peek) = some t then
    advance
    return true
  else return false

def expect (t : Token) : ReadM Unit := do
  if !(← accept t) then failure

/-- The number of a new anchor, which is how many names of anchors are known. A name that is used
once more gets a new number, too, so that numbers may repeat. -/
def numberAnchor (name : String) : ReadM Nat := do
  let known := (← get).anchors
  modify fun r => { r with anchors := (name, known.length) :: known.filter (·.1 != name) }
  return known.length

def resolveTag (handle : String) (suffix : Tag) : ReadM Tag := do
  if handle.isEmpty then return suffix
  match (← get).handles.lookup handle with
  | some start => return start ++ suffix
  | none =>
    if handle = "!" then return Text.Utf8.encode "!" ++ suffix
    else if handle = "!!" then return Text.Utf8.encode "tag:yaml.org,2002:" ++ suffix
    else failure

def marks : ReadM Marks := do
  let takeAnchor : ReadM (Option Nat) := do
    match ← peek with
    | some (.anchor name) =>
      advance
      return some (← numberAnchor name)
    | _ => return none
  let takeTag : ReadM (Option Tag) := do
    match ← peek with
    | some (.tag handle suffix) =>
      advance
      return some (← resolveTag handle suffix)
    | _ => return none
  match ← takeAnchor with
  | some anchor => return ⟨some anchor, ← takeTag⟩
  | none =>
    let tag ← takeTag
    return ⟨← takeAnchor, tag⟩

def follows (ends : List Token) : ReadM Bool := do
  match ← peek with
  | none => return true
  | some t => return ends.contains t

mutual

def node (block indentless : Bool) : Nat → ReadM Node
  | 0 => failure
  | fuel + 1 => do
    match ← peek with
    | some (.again name) =>
      advance
      match (← get).anchors.lookup name with
      | some anchor => return again anchor
      | none => failure
    | _ => content block indentless (← marks) fuel

def content (block indentless : Bool) (marks : Marks) : Nat → ReadM Node
  | 0 => failure
  | fuel + 1 => do
    match ← peek with
    | some (.scalar plain text) =>
      advance
      return scalar marks plain text
    | some .flowSequence =>
      advance
      return sequence marks (← flowItems true fuel)
    | some .flowMapping =>
      advance
      return mapping marks (← flowMembers true fuel)
    | some .blockSequence =>
      if !block then failure
      advance
      return sequence marks (← blockItems fuel)
    | some .blockMapping =>
      if !block then failure
      advance
      return mapping marks (← blockMembers fuel)
    | some .blockEntry =>
      if indentless then return sequence marks (← looseItems fuel)
      else if marks.isNone then failure
      else return scalar marks true ""
    | _ => if marks.isNone then failure else return scalar marks true ""

def nodeBefore (block indentless : Bool) (ends : List Token) : Nat → ReadM Node
  | 0 => failure
  | fuel + 1 => do
    if ← follows ends then return empty else node block indentless fuel

def blockItems : Nat → ReadM (List Node)
  | 0 => failure
  | fuel + 1 => do
    if ← accept .blockEntry then
      let item ← nodeBefore true false [.blockEntry, .blockEnd] fuel
      return item :: (← blockItems fuel)
    else
      expect .blockEnd
      return []

/-- The entries of a sequence that is not indented; what follows them belongs to the mapping. -/
def looseItems : Nat → ReadM (List Node)
  | 0 => failure
  | fuel + 1 => do
    if ← accept .blockEntry then
      let item ← nodeBefore true false [.blockEntry, .key, .value, .blockEnd] fuel
      return item :: (← looseItems fuel)
    else return []

def blockMembers : Nat → ReadM (List (Node × Node))
  | 0 => failure
  | fuel + 1 => do
    if ← accept .key then
      let name ← nodeBefore true true [.key, .value, .blockEnd] fuel
      let n ←
        if ← accept .value then nodeBefore true true [.key, .value, .blockEnd] fuel
        else pure empty
      return (name, n) :: (← blockMembers fuel)
    else
      expect .blockEnd
      return []

/-- The items of a flow sequence. A key makes its item a mapping with one member; when the key is
left out, the token after it goes with it. -/
def flowItems (first : Bool) : Nat → ReadM (List Node)
  | 0 => failure
  | fuel + 1 => do
    if ← accept .flowSequenceEnd then return []
    if !first then expect .flowEntry
    if ← accept .flowSequenceEnd then return []
    let item ←
      if ← accept .key then
        let name ←
          if ← follows [.value, .flowEntry, .flowSequenceEnd] then
            advance
            pure empty
          else node false false fuel
        let n ← flowValue .flowSequenceEnd fuel
        pure (mapping .none [(name, n)])
      else node false false fuel
    return item :: (← flowItems false fuel)

def flowValue (closing : Token) : Nat → ReadM Node
  | 0 => failure
  | fuel + 1 => do
    if ← accept .value then nodeBefore false false [.flowEntry, closing] fuel else return empty

def flowMembers (first : Bool) : Nat → ReadM (List (Node × Node))
  | 0 => failure
  | fuel + 1 => do
    if ← accept .flowMappingEnd then return []
    if !first then expect .flowEntry
    if ← accept .flowMappingEnd then return []
    let member ←
      if ← accept .key then
        let name ← nodeBefore false false [.value, .flowEntry, .flowMappingEnd] fuel
        pure (name, ← flowValue .flowMappingEnd fuel)
      else pure (← node false false fuel, empty)
    return member :: (← flowMembers false fuel)

end

def directives : Nat → ReadM Bool
  | 0 => failure
  | fuel + 1 => do
    match ← peek with
    | some (.version major minor) =>
      advance
      if (← get).versioned || major != 1 || (minor != 1 && minor != 2) then failure
      modify fun r => { r with versioned := true }
      let _ ← directives fuel
      return true
    | some (.tagHandle handle start) =>
      advance
      if ((← get).handles.lookup handle).isSome then failure
      modify fun r => { r with handles := (handle, start) :: r.handles }
      let _ ← directives fuel
      return true
    | _ => return false

def skipEnds : Nat → ReadM Unit
  | 0 => pure ()
  | fuel + 1 => do
    if ← accept .documentEnd then skipEnds fuel

def document (fuel : Nat) : ReadM (Option Node) := do
  if (← peek).isNone then return none
  let directed ← directives fuel
  let n ←
    if ← accept .documentStart then
      nodeBefore true false [.documentStart, .documentEnd] fuel
    else if directed then failure
    else node true false fuel
  skipEnds fuel
  if (← peek).isNone then return some n else failure

end Node

def Node.ofText? (s : String) : Option (Option Node) := do
  let tokens ← Token.ofText? s
  let (n, _) ← (Node.document (4 * tokens.length + 8)).run ⟨tokens, [], [], false⟩
  return n

/-- The anchors of a document, and how often aliases may be followed in it. -/
structure Anchors where
  targets : List (Nat × Node)
  allowance : Nat

def Anchors.ofNode (root : Node) : Anchors where
  targets := (root.parts.filterMap fun n => n.anchor?.map (·, n)).reverse
  allowance := 100 * (root.parts.map Node.weight).foldl (· + ·) 0

abbrev FollowM := StateT Nat Option

def Anchors.follow (anchors : Anchors) : Node → FollowM Node
  | .again anchor => do
    let followed ← get
    if anchors.allowance ≤ followed then failure
    set (followed + 1)
    match anchors.targets.lookup anchor with
    | some n => return n
    | none => failure
  | n => return n

end QualityGate.Yaml
