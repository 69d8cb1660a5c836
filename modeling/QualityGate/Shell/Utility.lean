import QualityGate.Shell.Condition
import QualityGate.Shell.Printing

namespace QualityGate.Shell

abbrev Utility := List String → ShellM Nat

namespace Utility

def say (name message : String) : ShellM Unit :=
  writeText 2 (name ++ ": " ++ message ++ "\n")

def forEach (f : String → ShellM Nat) : List String → ShellM Nat
  | [] => return 0
  | x :: xs => do
    let here ← f x
    let rest ← forEach f xs
    return max here rest

def optionsOf : List String → List Char × List String
  | [] => ([], [])
  | "--" :: args => ([], args)
  | a :: args =>
    match a.toList with
    | '-' :: c :: cs =>
      let (letters, operands) := optionsOf args
      (c :: cs ++ letters, operands)
    | _ =>
      let (letters, operands) := optionsOf args
      (letters, a :: operands)

def noSuchFile : String := "No such file or directory"

def find? (path : String) : ShellM (Option (Place × Option Entry)) := do
  let s ← get
  match s.tree.locate s.cwd path with
  | .ok place => return some (place, s.tree.find? place)
  | .error _ => return none

def quote (path : String) : String :=
  "'" ++ path ++ "'"

def read (path : String) : ShellM (Except String (List UInt8)) := do
  if path = "-" || path = "/dev/stdin" then return .ok (← readAll 0)
  else if path = Session.nullDevice then return .ok []
  else match ← find? path with
    | some (_, some (.file bytes)) => return .ok bytes
    | some (_, some .directory) => return .error "Is a directory"
    | _ => return .error noSuchFile

def sourceOf? (path : String) : ShellM (Option Place) := do
  if path = "-" then return (← get).placeOf? 0 else return (← find? path).map Prod.fst

def cat : Utility := fun args => do
  let (_, operands) := optionsOf args
  let paths := if operands.isEmpty then ["-"] else operands
  if ((← get).streamOf? 1).isNone then
    say "cat" "standard output: Bad file descriptor"
    return 1
  forEach (fun path => do
    let refuse (why : String) : ShellM Nat := do
      say "cat" (path ++ ": " ++ why)
      return 1
    match ← read path with
    | .ok bytes =>
      let source ← sourceOf? path
      if source.isSome && source = (← get).placeOf? 1 && !bytes.isEmpty then
        refuse "input file is output file"
      else
        writeBytes 1 bytes
        return 0
    | .error why => refuse why) paths

def missing (name what : String) : ShellM Nat := do
  say name ("missing " ++ what)
  writeText 2 ("Try '" ++ name ++ " --help' for more information.\n")
  return 1

def needingOperand (name what : String) (operands : List String) (run : ShellM Nat) :
    ShellM Nat := do
  if operands.isEmpty then missing name what else run

def rm : Utility := fun args => do
  let (letters, operands) := optionsOf args
  let force := letters.contains 'f'
  let recursive := letters.contains 'r' || letters.contains 'R'
  if operands.isEmpty && force then return 0
  else needingOperand "rm" "operand" operands <| forEach (fun path => do
    let refuse (why : String) : ShellM Nat := do
      say "rm" ("cannot remove " ++ quote path ++ ": " ++ why)
      return 1
    match ← find? path with
    | some (place, some entry) =>
      if entry = .directory && !recursive then refuse "Is a directory"
      else
        modify fun s => { s with tree := s.tree.erase place }
        return 0
    | _ => if force then return 0 else refuse noSuchFile) operands

def touch : Utility := fun args => do
  let (_, operands) := optionsOf args
  needingOperand "touch" "file operand" operands <| forEach (fun path => do
    match ← find? path with
    | some (_, some _) => return 0
    | some (place, none) =>
      if (← get).tree.isDirectory place.dropLast then
        modify fun s => { s with tree := s.tree.put place (.file []) }
        return 0
      else
        say "touch" ("cannot touch " ++ quote path ++ ": " ++ noSuchFile)
        return 1
    | none =>
      say "touch" ("cannot touch " ++ quote path ++ ": " ++ noSuchFile)
      return 1) operands

def mkdir : Utility := fun args => do
  let (letters, operands) := optionsOf args
  let parents := letters.contains 'p'
  needingOperand "mkdir" "operand" operands <| forEach (fun path => do
    let refuse (why : String) : ShellM Nat := do
      say "mkdir" ("cannot create directory " ++ quote path ++ ": " ++ why)
      return 1
    let s ← get
    if parents then
      let start := if path.toList.head? = some '/' then [] else s.cwd
      let place := start ++ (Path.components path.toList).map String.ofList
      set { s with tree := s.tree.makePath place }
      return 0
    else
      match ← find? path with
      | some (_, some _) => refuse "File exists"
      | some (place, none) =>
        if s.tree.isDirectory place.dropLast then
          set { s with tree := s.tree.put place .directory }
          return 0
        else refuse noSuchFile
      | none => refuse noSuchFile) operands

def place (name : String) (keep : Bool) : Utility := fun args => do
  let (_, operands) := optionsOf args
  match operands with
  | [] => missing name "file operand"
  | [source] => missing name ("destination file operand after " ++ quote source)
  | source :: target :: _ =>
    match ← find? source, ← find? target with
    | some (old, some (.file bytes)), some (new, entry) =>
      let new := if entry = some .directory then new ++ old.getLast?.toList else new
      if (← get).tree.isDirectory new.dropLast then
        modify fun s =>
          let tree := if keep || old = new then s.tree else s.tree.erase old
          { s with tree := tree.put new (.file bytes) }
        return 0
      else
        say name ("cannot create regular file " ++ quote target ++ ": " ++ noSuchFile)
        return 1
    | some (_, some .directory), _ =>
      say name ("-r not specified; omitting directory " ++ quote source)
      return 1
    | _, _ =>
      say name ("cannot stat " ++ quote source ++ ": " ++ noSuchFile)
      return 1

def pwd : Utility := fun _ => do
  writeText 1 (Place.path (← get).cwd ++ "\n")
  return 0

def printf (warn : String → ShellM Unit) : Utility := fun args => do
  match args with
  | [] =>
    warn "usage: printf format [arg ...]"
    return 2
  | f :: args =>
    let p := Printing.format f args
    (p.warnings ++ p.flaw.toList).forM warn
    writeBytes 1 p.bytes
    return if p.flaw.isSome then 2 else if p.warnings.isEmpty then 0 else 1

def test (bracket : Bool) (warn : String → ShellM Unit) : Utility := fun args => do
  let s ← get
  let isClosed := args.getLast?.any fun w => w.toList.head? = some ']'
  let held := if bracket && !isClosed then .error "missing ]"
    else Condition.holds s (args.length + 1) (if bracket then args.dropLast else args)
  match held with
  | .ok true => return 0
  | .ok false => return 1
  | .error message =>
    warn message
    return 2

def named? (name : String) : Option Utility :=
  match name with
  | "true" => some fun _ => return 0
  | "false" => some fun _ => return 1
  | "echo" => some fun args => do
    writeBytes 1 (Printing.echoProgram args)
    return 0
  | "printf" => some (printf (say "printf"))
  | "test" => some (test false (say "test"))
  | "[" => some (test true (say "["))
  | "cat" => some cat
  | "rm" => some rm
  | "touch" => some touch
  | "mkdir" => some mkdir
  | "cp" => some (place "cp" true)
  | "mv" => some (place "mv" false)
  | "pwd" => some pwd
  | _ => none

end Utility
end QualityGate.Shell
