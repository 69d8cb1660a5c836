import QualityGate.Settings.Basic
import QualityGate.Text.Digits

namespace QualityGate

inductive SettingsFlaw
  | logLevel (level : String)
  | logFormat (format : String)
  | logRotation (rotation : String)
  | payloadTimeout (ms : UInt64)
  | dottedExtension
  | emptyProgram (tool : Tool)
  | conflictingRule (rule : String)
deriving DecidableEq, Repr

def SettingsFlaw.message : SettingsFlaw → String
  | logLevel level =>
    "Invalid log level: " ++ level ++ ". Must be one of: trace, debug, info, warn, error"
  | logFormat format => "Invalid log format: " ++ format ++ ". Must be one of: json, pretty"
  | logRotation rotation =>
    "Invalid log rotation: " ++ rotation ++ ". Must be one of: daily, hourly, never"
  | payloadTimeout ms =>
    "Invalid payload_timeout_ms: " ++ Text.Digits.decimal ms.toNat ++ ". Must be at least 1"
  | dottedExtension =>
    "Configuration validation failed: hook.extensions must not include the leading dot"
  | emptyProgram tool => "Tool '" ++ tool.key ++ "' is enabled but has no program"
  | conflictingRule rule => "Lint rule '" ++ rule ++ "' is listed as both fixable and unfixable"

namespace Settings

def logLevels : List String := ["trace", "debug", "info", "warn", "error"]

def logFormats : List String := ["json", "pretty"]

def rotations : List String := ["daily", "hourly", "never"]

def require (holds : Bool) (flaw : SettingsFlaw) : Except SettingsFlaw Unit :=
  if holds then .ok () else .error flaw

def hasProgram (t : ToolSettings) : Bool :=
  !t.enabled || !Text.Blank.isBlankText t.program

def validate (s : Settings) : Except SettingsFlaw Unit := do
  require (logLevels.contains s.logging.level) (.logLevel s.logging.level)
  require (logFormats.contains s.logging.format) (.logFormat s.logging.format)
  require (rotations.contains s.logging.rotation) (.logRotation s.logging.rotation)
  require (s.hook.payloadTimeoutMs != 0) (.payloadTimeout s.hook.payloadTimeoutMs)
  require (s.hook.extensions.all fun e => e.toList.head? != some '.') .dottedExtension
  Tool.all.forM fun t => require (hasProgram (s.tools.get t)) (.emptyProgram t)
  match s.policy.inBoth.head? with
  | none => .ok ()
  | some rule => .error (.conflictingRule rule)

end Settings
end QualityGate
