import QualityGate.Cli.Program
import QualityGate.Log.Line
import QualityGate.Text.Uuid

namespace QualityGate.Machine

def read? (path : String) : IO (Option (List UInt8)) := do
  try
    let bytes ← IO.FS.readBinFile path
    return some bytes.toList
  catch _ => return none

def environment : IO (List (String × String)) := do
  let bytes := (← read? "/proc/self/environ").getD []
  let text := Text.Utf8.decodeLossy bytes
  return (text.splitOn "\x00").filterMap fun entry =>
    let name := entry.toList.takeWhile (· ≠ '=')
    match entry.toList.drop name.length with
    | _ :: value => some (String.ofList name, String.ofList value)
    | [] => none

def currentPlace : IO Place := do
  let dir ← IO.currentDir
  return (Path.components dir.toString.toList).map String.ofList

def processNumber : IO Nat := do
  let bytes := (← read? "/proc/self/stat").getD []
  let digits := (Text.Utf8.decodeLossy bytes).toList.takeWhile Char.isDigit
  return (String.ofList digits).toNat?.getD 0

def library : Library where
  appender := "tracing_appender::rolling"
  directive item := ("tracing_subscriber::filter", "torn apart: " ++ item)

def seconds : IO Nat := do
  let here := (← IO.currentDir) / "/proc/self/environ"
  try
    return (← here.metadata).modified.sec.toNat
  catch _ => return 0

def take (w : Workplace) (path : String) : IO Workplace := do
  let place := (Path.components path.toList).map String.ofList
  let place := if path.toList.head? = some '/' then place else w.cwd ++ place
  match ← read? path with
  | some bytes => return { w with tree := w.tree.addFile place bytes }
  | none => return w

partial def await (task : Task (Except IO.Error ByteArray)) (milliseconds : Nat) :
    IO Payload.Delivery := do
  if ← IO.hasFinished task then
    match task.get with
    | .ok bytes => return ⟨[bytes.toList], .complete⟩
    | .error _ => return ⟨[], .failed⟩
  else if milliseconds = 0 then return ⟨[], .stalled⟩
  else
    IO.sleep 1
    await task (milliseconds - 1)

def delivery (patience : Option UInt64) : IO Payload.Delivery := do
  match patience with
  | none => return ⟨[], .complete⟩
  | some ms =>
    let input ← IO.getStdin
    let task ← IO.asTask input.readBinToEnd
    await task ms.toNat

def keep (before : FileTree) (after : Workplace) : IO Unit :=
  (before.changes after.tree).forM fun (place, bytes) => do
    let path := Place.path place
    if after.logFile? ≠ some place then
      match bytes with
      | some bytes =>
        IO.FS.createDirAll (Place.path place.dropLast)
        IO.FS.writeBinFile path ⟨bytes.toArray⟩
      | none => IO.FS.removeFile path

def log (w : Workplace) (lines : List String) : IO Unit := do
  match w.logFile? with
  | none => return ()
  | some place =>
    IO.FS.createDirAll (Place.path place.dropLast)
    let file ← IO.FS.Handle.mk (Place.path place) .append
    lines.forM file.putStrLn

partial def stall : IO UInt32 := do
  IO.sleep 1000
  stall

/-- A run of the program. The tools run on the machine in memory, which sees the files with settings
and the checked file. -/
def start (args : List String) : IO UInt32 := do
  let environment ← environment
  let cwd ← currentPlace
  let now ← seconds
  let stdout ← IO.getStdout
  let stderr ← IO.getStderr
  match Cli.Request.ofArguments environment args with
  | .error e =>
    (if e.code = 0 then stdout else stderr).putStrLn e.message
    return UInt32.ofNat e.code
  | .ok request =>
    let tree := FileTree.empty.makePath cwd
    let w : Workplace := ⟨tree, cwd, environment, .ofSeconds now, library, none⟩
    let w ← (request.settingsPaths cwd).foldlM take w
    let delivery ← delivery (request.patience w)
    let w ← (request.file? delivery).toList.foldlM take w
    let id := Text.Uuid.ofBytes (← IO.getRandomBytes 16).toList
    let number ← processNumber
    let thread : Log.Thread := ⟨"main", number, none⟩
    let worker : Log.Thread := ⟨"tokio-rt-worker", number + 1, none⟩
    let some ending := request.run w ⟨delivery, id, thread, "1", worker⟩ | stall
    stdout.putStr ending.output.stdout
    stderr.putStr ending.output.stderr
    keep w.tree ending.workplace
    (ending.shown.map (Log.Event.line now)).forM stderr.putStrLn
    log ending.workplace (ending.logged.map (Log.Event.line now))
    return UInt32.ofNat ending.code

end QualityGate.Machine

def main (args : List String) : IO UInt32 :=
  QualityGate.Machine.start args
