import QualityGate.Cli.Arguments
import QualityGate.Facilities
import QualityGate.Gate.Assembly
import QualityGate.Gate.Guard
import QualityGate.Payload.Intake
import QualityGate.Payload.Screening

namespace QualityGate.Cli

/-- What is known of the call of a hook: the payload as it arrives, the identity of the call, the
thread that it is made in, and the name of the task that runs the gate and its thread. -/
structure HookCall where
  delivery : Payload.Delivery
  correlationId : String
  thread : Log.Thread
  task : String
  worker : Log.Thread

namespace HookCall

variable {m : Type → Type} [Monad m] [Log.Journal m]

open Log (Fragile event)

def gateFile (call : HookCall) (host : Host (Fragile m)) (settings : Settings) (errand : Errand) :
    m (ExitStatus × Output) := do
  let feedback := settings.hook.feedbackJson
  match Gate.ofSettings host settings with
  | .ok gate => gate.guard feedback call.task (Log.Breakdown.report call.worker) errand
  | .error e =>
    event .error .hook "Hook setup failed" ["correlation_id", "error"]
    return (.success, .ofNarration feedback (.hookError e.message call.correlationId))

def attend (call : HookCall) (host : Host (Fragile m)) (settings : Settings) (p : Payload) :
    m (ExitStatus × Output) := do
  match p.screen settings.hook with
  | .accept operation file =>
    let shown := .ofNarration settings.hook.feedbackJson (.processing (p.fileName?.getD file))
    let errand := ⟨file, call.correlationId, some operation⟩
    let (status, output) ← call.gateFile host settings errand
    return (status, shown ++ output)
  | .missingFields | .unsupportedOperation _ | .unsupportedFile _ =>
    event .debug .hook "Skipping payload" ["correlation_id", "verdict"]
    return (.success, .empty)

def respond (call : HookCall) (host : Host (Fragile m)) (settings : Settings) :
    m (ExitStatus × Output) := do
  let feedback := settings.hook.feedbackJson
  let started := .ofNarration feedback (.started call.correlationId)
  let text ← Payload.receive call.delivery
  match Payload.parse text with
  | .error e =>
    event .warn .hook "Malformed payload, exiting gracefully" ["correlation_id", "error"]
    return (.success, started ++ .ofNarration feedback (.invalidPayload e.message))
  | .ok p =>
    event .debug .payload "Payload received" ["tool_name", "file_path"]
    let (status, output) ← call.attend host settings p
    return (status, started ++ output)

/-- The settings with the time for a payload that the call gives, which is never zero. -/
def withTimeout (settings : Settings) (ms : Option UInt64) : Settings :=
  match ms with
  | some ms => { settings with hook := { settings.hook with payloadTimeoutMs := max ms 1 } }
  | none => settings

def execute (call : HookCall) (f : Facilities (Fragile m)) (config : Option String)
    (timeoutMs : Option UInt64) : Fragile m (ExitStatus × Output) := do
  match f.settings config with
  | .error e =>
    let message := ": ".intercalate e.chain
    return (.error, .errorLine ("quality-hook: invalid configuration: " ++ message))
  | .ok settings =>
    let settings := withTimeout settings timeoutMs
    let said ← f.startLogger settings.logging
    let (status, output) ← (call.respond f.host settings : m (ExitStatus × Output))
    return (status, said ++ output)

end HookCall
end QualityGate.Cli
