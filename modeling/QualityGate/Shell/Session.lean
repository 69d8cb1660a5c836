import QualityGate.FileTree
import QualityGate.Shell.Lexeme
import QualityGate.Shell.Numeral

namespace QualityGate.Shell

/-- A stream with its own place in a file. Several descriptors may stand for one stream. -/
inductive Stream
  | nothing
  | file (place : Place) (offset : Nat) (append : Bool)
  | buffer (bytes : List UInt8)
deriving DecidableEq, Repr

/-- A variable, which may have no value but be marked. -/
structure Variable where
  value : Option String
  exported : Bool
  readonly : Bool
deriving DecidableEq, Repr

/-- A part of the session that is put back when a command ends: variables as they were before. -/
abbrev Frame := List (String × Option Variable)

structure Session where
  tree : FileTree
  cwd : Place
  streams : List Stream
  /-- The stream of each descriptor, by its number. -/
  descriptors : List (Nat × Nat)
  bindings : List (String × Variable)
  functions : List (String × Script)
  /-- The letters of the options that are set. -/
  options : List Char
  /-- The name that the script goes by. -/
  name : String
  params : List String
  /-- How the last command ended. -/
  status : Nat
  /-- How the last script ended that stood in a word. -/
  substituted : Nat
  /-- The line of the command that runs. -/
  line : Nat
  /-- The builtin command that runs. -/
  builtin : Option String
  /-- The number of loops around the command, up to the next function. -/
  loops : Nat
  /-- The number of functions that run in one another. -/
  calls : Nat
  /-- What the functions that run have to put back. -/
  frames : List Frame
  /-- What is done on a signal, or at the end. -/
  traps : List (Nat × String)
  /-- How the command before the trap ended that runs. -/
  trapStatus : Option Nat
  /-- Some output had nowhere to go. -/
  lost : Bool
  /-- The signals that were sent to the process of the shell and have had no effect so far. -/
  signals : List Nat
  process : Nat
  /-- The shell is a copy that was made for some of the script, which is not the process that the
  number is that of. -/
  isCopy : Bool
  /-- The number that the next process gets. -/
  nextProcess : Nat
  /-- The processes in the background, the last of them first, and how they ended. -/
  jobs : List (Nat × Nat)
  /-- The word in which options were looked for last, by its number, and the letters left of it. -/
  optionPlace : Nat × List Char

def Session.start (tree : FileTree) (cwd : Place) (streams : List Stream)
    (descriptors : List (Nat × Nat)) (environment : List (String × String)) : Session where
  tree := tree
  cwd := cwd
  streams := streams
  descriptors := descriptors
  bindings :=
    [("IFS", " \t\n"), ("OPTIND", "1"), ("PS1", "$ "), ("PS2", "> "), ("PS4", "+ ")].map
      (fun (name, value) => (name, ⟨some value, false, false⟩)) ++
    environment.map fun (name, value) => (name, ⟨some value, true, false⟩)
  functions := []
  options := []
  name := "sh"
  params := []
  status := 0
  substituted := 0
  line := 0
  builtin := none
  loops := 0
  calls := 0
  frames := []
  traps := []
  trapStatus := none
  lost := false
  signals := []
  process := 2
  isCopy := false
  nextProcess := 3
  jobs := []
  optionPlace := (1, [])

abbrev ShellM := StateM Session

abbrev Attempt := ExceptT String ShellM

namespace Session

def streamOf? (s : Session) (descriptor : Nat) : Option Nat :=
  s.descriptors.lookup descriptor

def placeOf? (s : Session) (descriptor : Nat) : Option Place :=
  match (s.streamOf? descriptor).bind (s.streams[·]?) with
  | some (.file place _ _) => some place
  | _ => none

def pending (s : Session) (stream : Nat) : List UInt8 :=
  match s.streams[stream]? with
  | some (.file place offset _) => ((s.tree.bytes? place).getD []).drop offset
  | some (.buffer bytes) => bytes
  | _ => []

def consume (s : Session) (stream count : Nat) : Session :=
  match s.streams[stream]? with
  | some (.file place offset append) =>
    { s with streams := s.streams.set stream (.file place (offset + count) append) }
  | some (.buffer bytes) => { s with streams := s.streams.set stream (.buffer (bytes.drop count)) }
  | _ => s

/-- Bytes are written over those at an offset; a gap before it is filled with zeros. -/
def overwrite (content : List UInt8) (offset : Nat) (bytes : List UInt8) : List UInt8 :=
  content.take offset ++ List.replicate (offset - content.length) 0 ++ bytes ++
    content.drop (offset + bytes.length)

def writeTo (s : Session) (stream : Nat) (bytes : List UInt8) : Session :=
  match s.streams[stream]? with
  | some (.file place offset append) =>
    let content := (s.tree.bytes? place).getD []
    let start := if append then content.length else offset
    { s with
      tree := s.tree.put place (.file (overwrite content start bytes))
      streams := s.streams.set stream (.file place (start + bytes.length) append) }
  | some (.buffer before) => { s with streams := s.streams.set stream (.buffer (before ++ bytes)) }
  | _ => s

def attach (s : Session) (descriptor : Nat) (stream : Stream) : Session :=
  { s with
    streams := s.streams ++ [stream]
    descriptors := (descriptor, s.streams.length) :: s.descriptors.filter (·.1 ≠ descriptor) }

def direct (s : Session) (descriptor : Nat) (stream : Option Nat) : Session :=
  { s with
    descriptors :=
      (stream.map ((descriptor, ·))).toList ++ s.descriptors.filter (·.1 ≠ descriptor) }

def held? (s : Session) (name : String) : Option Variable :=
  s.bindings.lookup name

def valueOf? (s : Session) (name : String) : Option String :=
  (s.held? name).bind Variable.value

def putVariable (s : Session) (name : String) (v : Option Variable) : Session :=
  { s with bindings := (v.map ((name, ·))).toList ++ s.bindings.filter (·.1 ≠ name) }

def assign (s : Session) (name value : String) : Except String Session :=
  match s.held? name with
  | some v =>
    if v.readonly then .error (name ++ ": is read only")
    else
      let exported := v.exported || s.options.contains 'a'
      .ok (s.putVariable name (some ⟨some value, exported, false⟩))
  | none => .ok (s.putVariable name (some ⟨some value, s.options.contains 'a', false⟩))

def unset (s : Session) (name : String) : Except String Session :=
  if (s.held? name).any Variable.readonly then .error (name ++ ": is read only")
  else .ok (s.putVariable name none)

def restore (s : Session) (frame : Frame) : Session :=
  frame.foldl (fun s (name, v) => s.putVariable name v) s

def environment (s : Session) : List (String × String) :=
  s.bindings.filterMap fun (name, v) => if v.exported then v.value.map (name, ·) else none

def separators (s : Session) : List Char :=
  match s.valueOf? "IFS" with
  | some ifs => ifs.toList
  | none => [' ', '\t', '\n']

def glue (s : Session) : String :=
  match s.valueOf? "IFS" with
  | some ifs => String.ofList (ifs.toList.take 1)
  | none => " "

def optionLetterOrder : List Char :=
  ['u', 'b', 'a', 'C', 'E', 'V', 'v', 'x', 's', 'n', 'm', 'i', 'I', 'f', 'e']

def parameter? (s : Session) (name : String) : Option String :=
  match name with
  | "@" | "*" => some (s.glue.intercalate s.params)
  | "#" => some (Text.Digits.decimal s.params.length)
  | "?" => some (Text.Digits.decimal s.status)
  | "$" => some (Text.Digits.decimal s.process)
  | "!" => s.jobs.head?.map fun j => Text.Digits.decimal j.1
  | "-" => some (String.ofList (optionLetterOrder.filter s.options.contains))
  | _ =>
    match Text.Digits.natural? 10 name.toList with
    | some 0 => some s.name
    | some (n + 1) => s.params[n]?
    | none => s.valueOf? name

def nullDevice : String := "/dev/null"

def ownDescriptor? (path : String) : Option Nat :=
  match path with
  | "/dev/stdin" => some 0
  | "/dev/stdout" => some 1
  | "/dev/stderr" => some 2
  | _ =>
    let directory := "/dev/fd/".toList
    if directory.isPrefixOf path.toList then
      Text.Digits.natural? 10 (path.toList.drop directory.length)
    else none

def reopened (s : Session) (stream : Nat) (append : Bool) : Session × Nat :=
  match s.streams[stream]? with
  | some (.file place _ _) =>
    ({ s with streams := s.streams ++ [.file place 0 append] }, s.streams.length)
  | _ => (s, stream)

def added (s : Session) (stream : Stream) : Session × Nat :=
  ({ s with streams := s.streams ++ [stream] }, s.streams.length)

def openRead (s : Session) (path : String) : Except String (Session × Nat) :=
  let refusal (why : String) := .error ("cannot open " ++ path ++ ": " ++ why)
  if path = nullDevice then .ok (s.added .nothing)
  else match ownDescriptor? path with
    | some d =>
      match s.streamOf? d with
      | some stream => .ok (s.reopened stream false)
      | none => refusal "No such file"
    | none =>
      match s.tree.locate s.cwd path with
      | .error .tooLong => refusal "File name too long"
      | .error _ => refusal "No such file"
      | .ok place =>
        match s.tree.find? place with
        | none => refusal "No such file"
        | some .directory => .ok (s.added .nothing)
        | some (.file _) => .ok (s.added (.file place 0 false))

def openWrite (s : Session) (path : String) (keeps append : Bool) :
    Except String (Session × Nat) :=
  let refusal (why : String) := .error ("cannot create " ++ path ++ ": " ++ why)
  if path = nullDevice then .ok (s.added .nothing)
  else match ownDescriptor? path with
    | some d =>
      match s.streamOf? d with
      | some stream => .ok (s.reopened stream append)
      | none => refusal "Directory nonexistent"
    | none =>
      match s.tree.locate s.cwd path with
      | .error .tooLong => refusal "File name too long"
      | .error _ => refusal "Directory nonexistent"
      | .ok place =>
        match s.tree.find? place with
        | some .directory => refusal "Is a directory"
        | some (.file bytes) =>
          let kept := if keeps then bytes else []
          let s := { s with tree := s.tree.put place (.file kept) }
          .ok (s.added (.file place 0 append))
        | none =>
          if FileTree.wantsDirectory path then refusal "Is a directory"
          else if !s.tree.isDirectory place.dropLast then refusal "Directory nonexistent"
          else
            let s := { s with tree := s.tree.put place (.file []) }
            .ok (s.added (.file place 0 append))

end Session

def writeBytes (descriptor : Nat) (bytes : List UInt8) : ShellM Unit :=
  modify fun s =>
    match s.streamOf? descriptor with
    | some stream => s.writeTo stream bytes
    | none => { s with lost := s.lost || !bytes.isEmpty }

def writeText (descriptor : Nat) (text : String) : ShellM Unit :=
  writeBytes descriptor (Text.Utf8.encode text)

def readAll (descriptor : Nat) : ShellM (List UInt8) :=
  modifyGet fun s =>
    match s.streamOf? descriptor with
    | some stream =>
      let bytes := s.pending stream
      (bytes, s.consume stream bytes.length)
    | none => ([], s)

def readLine (descriptor : Nat) : ShellM (List UInt8 × Bool) :=
  modifyGet fun s =>
    match s.streamOf? descriptor with
    | some stream =>
      let bytes := s.pending stream
      let line := bytes.takeWhile (· ≠ 10)
      let ended := line.length < bytes.length
      ((line, ended), s.consume stream (if ended then line.length + 1 else line.length))
    | none => (([], false), s)

/-- The shell says what is wrong, with its name, the line, and the builtin that runs. -/
def complain (message : String) : ShellM Unit := do
  let s ← get
  let builtin := match s.builtin with
    | some b => b ++ ": "
    | none => ""
  writeText 2 (s.name ++ ": " ++ Text.Digits.decimal s.line ++ ": " ++ builtin ++ message ++ "\n")

def setStatus (n : Nat) : ShellM Unit :=
  modify fun s => { s with status := n }

def setLine (n : Nat) : ShellM Unit :=
  modify fun s => { s with line := n }

def assignVariable (name value : String) : Attempt Unit := do
  match (← get).assign name value with
  | .ok s => set s
  | .error message => throw message

end QualityGate.Shell
