import QualityGate.FileTree
import QualityGate.Log.Filter
import QualityGate.Settings.Basic

namespace QualityGate.Log

structure Moment where
  /-- Year, month and day, with dashes between them. -/
  day : String
  hour : String
deriving DecidableEq, Repr

/-- Sends the events that its filter admits to a file, to standard error, or to both. -/
structure Logger where
  filter : Filter
  file : Option Place
  toStderr : Bool
deriving DecidableEq, Repr

def Logger.admitted (l : Logger) (journal : List Entry) : List Event :=
  (journal.filter l.filter.admits).map Entry.event

inductive StartError
  | level (name : String)
  | atWork
deriving DecidableEq, Repr

def StartError.message : StartError → String
  | level name => "Invalid log level: " ++ name
  | atWork => "a global default trace dispatcher has already been set"

/-- The variable with directives that take the place of the level in the settings. -/
def filterVariable : String := "RUST_LOG"

def levelOf? (name : String) : Option Level :=
  Level.all.find? fun l => Directive.lowered l.name = Directive.lowered name

def fileName : String := "quality-hook.log"

/-- The name of the log file at a time. A file that is not kept for ever has the day in its name,
and one for every hour the hour too. -/
def fileNameAt (rotation : String) (now : Moment) : String :=
  match rotation with
  | "never" => fileName
  | "hourly" => fileName ++ "." ++ now.day ++ "-" ++ now.hour
  | _ => fileName ++ "." ++ now.day

inductive Obstacle
  | fileExists
  | notDirectory
  | isDirectory
  | nameTooLong
  | nulByte
deriving DecidableEq, Repr

/-- An obstacle as the operating system puts it: its number, its kind and its message. -/
def Obstacle.ofSystem (number : Nat) (kind message : String) : String :=
  "Os \x7b code: " ++ toString number ++ ", kind: " ++ kind ++ ", message: " ++
    Text.Quoted.text message ++ " \x7d"

def Obstacle.text : Obstacle → String
  | fileExists => ofSystem 17 "AlreadyExists" "File exists"
  | notDirectory => ofSystem 20 "NotADirectory" "Not a directory"
  | isDirectory => ofSystem 21 "IsADirectory" "Is a directory"
  | nameTooLong => ofSystem 36 "InvalidFilename" "File name too long"
  | nulByte =>
    "Error \x7b kind: InvalidInput, message: " ++
      Text.Quoted.text "file name contained an unexpected NUL byte" ++ " \x7d"

/-- A log file cannot be opened, or already its directory cannot be made. -/
inductive OpenError
  | directory (o : Obstacle)
  | file (o : Obstacle)
deriving DecidableEq, Repr

def OpenError.parts : OpenError → String × Obstacle
  | directory o => ("failed to create log directory", o)
  | file o => ("failed to create initial log file", o)

def OpenError.words (e : OpenError) : String :=
  "initializing rolling file appender failed: InitError \x7b context: " ++
    Text.Quoted.text e.parts.1 ++ ", source: " ++ e.parts.2.text ++ " \x7d"

/-- The directory that some names lead to, made with all that lead to it. Those that are made before
an obstacle is met stay. -/
def makeDirectories (tree : FileTree) (p : Place) : List String → Except Obstacle Place × FileTree
  | [] => (.ok p, tree)
  | name :: names =>
    -- the parent of a directory is one, so nothing is made on the way up
    let q := if name = ".." then p.dropLast else p ++ [name]
    match tree.find? q with
    | some .directory => makeDirectories tree q names
    | some (.file _) => (.error (if names.isEmpty then .fileExists else .notDirectory), tree)
    | none =>
      if FileTree.maxName < name.utf8ByteSize then (.error .nameTooLong, tree)
      else makeDirectories (tree.put q .directory) q names

def makeDirectory (tree : FileTree) (cwd : Place) (path : String) :
    Except Obstacle Place × FileTree :=
  if path.toList.contains '\x00' then (.error .nulByte, tree)
  else if FileTree.maxPath < path.utf8ByteSize then (.error .nameTooLong, tree)
  else
    let start := if path.toList.head? = some '/' then [] else cwd
    makeDirectories tree start ((Path.components path.toList).map String.ofList)

def openFile (tree : FileTree) (cwd : Place) (directory name : String) :
    Except OpenError Place × FileTree :=
  match makeDirectory tree cwd directory with
  | (.error o, tree) => (.error (.directory o), tree)
  | (.ok dir, tree) =>
    let p := dir ++ [name]
    if FileTree.maxPath < directory.utf8ByteSize + 1 + name.utf8ByteSize then
      (.error (.file .nameTooLong), tree)
    else match tree.find? p with
    | some .directory => (.error (.file .isDirectory), tree)
    | some (.file _) => (.ok p, tree)
    | none => (.ok p, tree.put p (.file []))

end QualityGate.Log
