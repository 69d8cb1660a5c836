import QualityGate.Members
import QualityGate.Wire.Decode
import QualityGate.Yaml.Node
import QualityGate.Yaml.Scalar

namespace QualityGate

inductive Origin
  | defaults
  /-- A file, by the path that messages give for it. -/
  | file (path : String)
  | environment
deriving DecidableEq, Repr

inductive Scalar
  | null
  | flag (b : Bool)
  | integer (z : Int)
  | minusZero
  | wide (z : Int)
  | real (x : Double)
  | char (c : Char)
  | text (s : String)
deriving DecidableEq, Repr

/-- The members of a group are in the order of their names. -/
inductive Setting
  | leaf (origin : Origin) (content : Scalar)
  | list (origin : Origin) (items : List Setting)
  | group (origin : Origin) (members : List (String × Setting))
deriving Repr

namespace Setting

def origin : Setting → Origin
  | leaf o _ => o
  | list o _ => o
  | group o _ => o

mutual

def merge (earlier : Setting) : Setting → Setting
  | leaf o content => leaf o content
  | list o items => list o items
  | group o members =>
    match earlier with
    | group _ others => group o (mergeMembers others members)
    | _ => group o members

def mergeMembers (earlier : List (String × Setting)) :
    List (String × Setting) → List (String × Setting)
  | [] => earlier
  | (name, later) :: rest =>
    match earlier.lookup name with
    | some value => mergeMembers (Members.insert name (merge value later) earlier) rest
    | none => mergeMembers (Members.insert name later earlier) rest

end

def nothing (origin : Origin) : Setting :=
  group origin []

mutual

def ofJson (origin : Origin) : Json → Setting
  | .null => leaf origin .null
  | .bool b => leaf origin (.flag b)
  | .integer z => leaf origin (.integer z)
  | .real x => leaf origin (.real x)
  | .string s => leaf origin (.text s)
  | .array items => list origin (ofItems origin items)
  | .object members => group origin (ofMembers origin members)

def ofItems (origin : Origin) : List Json → List Setting
  | [] => []
  | item :: items => ofJson origin item :: ofItems origin items

def ofMembers (origin : Origin) : List (String × Json) → List (String × Setting)
  | [] => []
  | (name, value) :: members => (name, ofJson origin value) :: ofMembers origin members

end

def ofYamlScalar : Yaml.Scalar → Scalar
  | .null => .null
  | .flag b => .flag b
  | .integer z => .integer z
  | .minusZero => .minusZero
  | .wide z => .wide z
  | .real x => .real x
  | .text s => .text s

def maxDepth : Nat := 128

section Yaml

open Yaml

variable (anchors : Anchors) (origin : Origin)

def nameOf (n : Node) : FollowM String := do
  match ← anchors.follow n with
  | .scalar _ _ text => return text
  | _ => failure

def scalarOf? (marks : Marks) (plain : Bool) (text : String) : Option Yaml.Scalar :=
  match marks.tag with
  | none => some (.of plain text)
  | some tag => Yaml.Scalar.ofTagged? tag plain text

/-- A value with a local tag is in a group of its own, as the member that the tag names. -/
def tagged (marks : Marks) (s : Setting) : Setting :=
  match marks.tag.bind Tag.localName? with
  | some name => group origin [(name, s)]
  | none => s

def groupOf (valueOf : Node → FollowM Setting) (members : List (Node × Node)) :
    FollowM Setting := do
  let members ← members.mapM fun m => return (← nameOf anchors m.1, ← valueOf m.2)
  return group origin (Members.arrange members)

def ofMarkedScalar (marks : Marks) (plain : Bool) (text : String) : FollowM Setting :=
  match scalarOf? marks plain text with
  | some s => return tagged origin marks (leaf origin (ofYamlScalar s))
  | none => failure

/-- The value that a node gives for a setting, with at most so many collections one in another. -/
def ofNode : Nat → Node → FollowM Setting
  | 0, n => do
    match ← anchors.follow n with
    | .scalar marks plain text => ofMarkedScalar origin marks plain text
    | _ => failure
  | depth + 1, n => do
    match ← anchors.follow n with
    | .scalar marks plain text => ofMarkedScalar origin marks plain text
    | .sequence marks items =>
      return tagged origin marks (list origin (← items.mapM (ofNode depth)))
    | .mapping marks members =>
      return tagged origin marks (← groupOf anchors origin (ofNode depth) members)
    | .again _ => failure

end Yaml

/-- The group of settings that a YAML text gives: a text without content sets nothing, and any
other content than a mapping is refused. -/
def ofYaml? (origin : Origin) (text : String) : Option Setting :=
  match Yaml.Node.ofText? text with
  | none => none
  | some none => some (nothing origin)
  | some (some (.scalar _ plain "")) => if plain then some (nothing origin) else none
  | some (some (.mapping marks members)) =>
    let anchors := Yaml.Anchors.ofNode (.mapping marks members)
    ((groupOf anchors origin (ofNode anchors origin (maxDepth - 1)) members).run 0).map Prod.fst
  | some (some _) => none

end Setting

open Wire in
instance : Source Setting where
  view
    | .leaf _ .null => .null
    | .leaf _ (.flag b) => .flag b
    | .leaf _ (.integer z) => .integer z
    | .leaf _ .minusZero => .minusZero
    | .leaf _ (.wide z) => .wide z
    | .leaf _ (.real x) => .real x
    | .leaf _ (.char c) => .char c
    | .leaf _ (.text s) => .text s
    | .list _ items => .list items
    | .group _ members => .map members
  refusesSurplus := false

end QualityGate
