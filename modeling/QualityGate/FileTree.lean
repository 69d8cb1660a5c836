import QualityGate.Path
import QualityGate.Text.Utf8

namespace QualityGate

abbrev Place := List String

inductive Entry
  | directory
  | file (bytes : List UInt8)
deriving DecidableEq, Repr

structure FileTree where
  entries : List (Place × Entry)
deriving Repr, Inhabited

inductive PathError
  | missing
  | notDirectory
  | tooLong
deriving DecidableEq, Repr

namespace FileTree

def empty : FileTree :=
  ⟨[]⟩

def find? (t : FileTree) (p : Place) : Option Entry :=
  if p.isEmpty then some .directory else t.entries.lookup p

def put (t : FileTree) (p : Place) (e : Entry) : FileTree :=
  if (t.entries.lookup p).isSome then
    ⟨t.entries.map fun x => if x.1 = p then (p, e) else x⟩
  else ⟨t.entries ++ [(p, e)]⟩

def erase (t : FileTree) (p : Place) : FileTree :=
  ⟨t.entries.filter fun x => !p.isPrefixOf x.1⟩

def isDirectory (t : FileTree) (p : Place) : Bool :=
  t.find? p == some .directory

def bytes? (t : FileTree) (p : Place) : Option (List UInt8) :=
  match t.find? p with
  | some (.file bytes) => some bytes
  | _ => none

def ancestors (p : Place) : List Place :=
  (List.range p.length).map fun n => p.take n

def makePath (t : FileTree) (p : Place) : FileTree :=
  (ancestors p ++ [p]).foldl (fun t q =>
    if (t.find? q).isSome then t else t.put q .directory) t

def addFile (t : FileTree) (p : Place) (bytes : List UInt8) : FileTree :=
  (t.makePath p.dropLast).put p (.file bytes)

def names (t : FileTree) (p : Place) : List String :=
  t.entries.filterMap fun x =>
    if x.1.length = p.length + 1 && p.isPrefixOf x.1 then x.1.getLast? else none

def maxName : Nat := 255

def maxPath : Nat := 4095

def step (t : FileTree) (p : Place) (name : String) : Except PathError Place :=
  match t.find? p with
  | none => .error .missing
  | some (.file _) => .error .notDirectory
  | some .directory =>
    if maxName < name.utf8ByteSize then .error .tooLong
    else .ok (if name = ".." then p.dropLast else p ++ [name])

def wantsDirectory (path : String) : Bool :=
  match (Path.segments path.toList).getLast? with
  | some [] => true
  | some ['.'] => true
  | _ => false

/-- The place that a path leads to from a directory. All but the last step have to be there. -/
def locate (t : FileTree) (cwd : Place) (path : String) : Except PathError Place := do
  if maxPath < path.utf8ByteSize then throw .tooLong
  let start := if path.toList.head? = some '/' then [] else cwd
  let p ← ((Path.components path.toList).map String.ofList).foldlM t.step start
  if path.isEmpty then .error .missing
  else if wantsDirectory path then
    match t.find? p with
    | some (.file _) => .error .notDirectory
    | _ => .ok p
  else .ok p

def fileAt? (t : FileTree) (cwd : Place) (path : String) : Option Place :=
  match t.locate cwd path with
  | .ok p => if (t.bytes? p).isSome then some p else none
  | .error _ => none

/-- The files that one tree has and another has not, or that differ: their bytes in the second tree,
if they are there. -/
def changes (before after : FileTree) : List (Place × Option (List UInt8)) :=
  let files (t : FileTree) := t.entries.filterMap fun x =>
    match x.2 with
    | .file _ => some x.1
    | .directory => none
  let gone := (files before).filter fun p => (after.bytes? p).isNone
  let changed := (files after).filter fun p => after.bytes? p != before.bytes? p
  gone.map (·, none) ++ changed.map fun p => (p, after.bytes? p)

end FileTree

def Place.path (p : Place) : String :=
  "/" ++ "/".intercalate p

end QualityGate
