import QualityGate.Cli.Check
import QualityGate.Cli.Hook

namespace QualityGate.Cli

def wantsColours (environment : List (String × String)) : Bool :=
  (environment.lookup "CLICOLOR_FORCE").any (· != "0")

/-- How a run of the program ended, with all events of the run. -/
structure Ending where
  code : Nat
  output : Output
  workplace : Workplace
  journal : List Log.Entry

def Ending.logged (e : Ending) : List Log.Event :=
  e.workplace.logged e.journal

def Ending.shown (e : Ending) : List Log.Event :=
  e.workplace.shown e.journal

def breakdownCode : Nat := 101

variable {m : Type → Type} [Monad m] [Log.Journal m]

def Request.execute (r : Request) (f : Facilities (Log.Fragile m)) (call : HookCall)
    (colours : Bool) : Log.Fragile m (ExitStatus × Output) :=
  match r.task with
  | .hook timeoutMs => call.execute f r.config timeoutMs
  | .check file noFix =>
    (CheckCall.mk file noFix call.correlationId).execute f r.config r.json colours

/-- A breakdown puts an end to the process, and all that is told of it is the report. -/
def Request.finish (r : Request) (f : Facilities (Log.Fragile m)) (call : HookCall)
    (colours : Bool) : m (Nat × Output) := do
  match ← (r.execute f call colours).run with
  | .ok (status, output) => return (status.code, output)
  | .error b => return (breakdownCode, ⟨"", b.report call.thread⟩)

/-- A request is carried out with the given facilities. A run that never ends has no ending. -/
def Request.runWith (r : Request)
    (f : Facilities (Log.Fragile (Log.Stalling (Log.WorldM Workplace)))) (w : Workplace)
    (call : HookCall) : Option Ending :=
  let (result, world) := (r.finish f call (wantsColours w.environment)).run.run (.start w)
  result.map fun (code, output) => ⟨code, output, world.state, world.journal⟩

def Request.run (r : Request) (w : Workplace) (call : HookCall) : Option Ending :=
  r.runWith (.ofWorkplace w) w call

def Request.settingsPaths (r : Request) (cwd : Place) : List String :=
  (Settings.files r.config).flatMap fun path =>
    if path.toList.head? = some '/' then [path]
    else (searchPath cwd).map fun dir => Place.path (dir ++ [path])

def Request.patience (r : Request) (w : Workplace) : Option UInt64 :=
  match r.task, Settings.load w.tree w.cwd w.environment r.config with
  | .hook ms, .ok settings => some (HookCall.withTimeout settings ms).hook.payloadTimeoutMs
  | _, _ => none

def Request.file? (r : Request) (delivery : Payload.Delivery) : Option String :=
  match r.task with
  | .check file _ => some file
  | .hook _ =>
    match Payload.parse delivery.text with
    | .ok p => p.filePath?
    | .error _ => none

def run (args : List String) (w : Workplace) (call : HookCall) :
    Except UsageError (Option Ending) := do
  let r ← Request.ofArguments w.environment args
  return r.run w call

end QualityGate.Cli
