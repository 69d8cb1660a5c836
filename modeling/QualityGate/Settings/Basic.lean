import QualityGate.Diagnostic.Policy
import QualityGate.Path

namespace QualityGate

open Wire

structure LoggingSettings where
  level : String
  format : String
  /-- Where log files are kept; without it nothing is logged to files. -/
  logDir : Option String
  enableStderr : Bool
  rotation : String
deriving DecidableEq, Repr

namespace LoggingSettings

def default : LoggingSettings :=
  ⟨"info", "json", some ".quality-hook/logs", false, "daily"⟩

instance : Inhabited LoggingSettings :=
  ⟨default⟩

def form : Form LoggingSettings :=
  .record "LoggingConfig"
    (.cons "level" .text (.defaultTo default.level)
      (.cons "format" .text (.defaultTo default.format)
        (.cons "log_dir" (.optional .text) (.defaultTo default.logDir)
          (.cons "enable_stderr" .flag (.defaultTo default.enableStderr)
            (.cons "rotation" .text (.defaultTo default.rotation) .nil)))))
    (fun (level, format, logDir, enableStderr, rotation, _) =>
      ⟨level, format, logDir, enableStderr, rotation⟩)
    (fun l => (l.level, l.format, l.logDir, l.enableStderr, l.rotation, ()))
    (fun _ => rfl)

end LoggingSettings

structure HookSettings where
  payloadTimeoutMs : UInt64
  operations : List String
  /-- The extensions of the files that are checked, without the dot. -/
  extensions : List String
  feedbackJson : Bool
deriving DecidableEq, Repr

namespace HookSettings

def default : HookSettings :=
  ⟨5000, ["Write", "Edit", "MultiEdit"], ["js", "jsx", "ts", "tsx"], true⟩

instance : Inhabited HookSettings :=
  ⟨default⟩

def form : Form HookSettings :=
  .record "HookConfig"
    (.cons "payload_timeout_ms" .word64 (.defaultTo default.payloadTimeoutMs)
      (.cons "operations" (.list .text) (.defaultTo default.operations)
        (.cons "extensions" (.list .text) (.defaultTo default.extensions)
          (.cons "feedback_json" .flag (.defaultTo default.feedbackJson) .nil))))
    (fun (payloadTimeoutMs, operations, extensions, feedbackJson, _) =>
      ⟨payloadTimeoutMs, operations, extensions, feedbackJson⟩)
    (fun h => (h.payloadTimeoutMs, h.operations, h.extensions, h.feedbackJson, ()))
    (fun _ => rfl)

def handlesOperation (h : HookSettings) (operation : String) : Bool :=
  h.operations.contains operation

def handlesFile (h : HookSettings) (file : String) : Bool :=
  match Path.extension? file with
  | some e => h.extensions.contains e
  | none => false

end HookSettings

/-- The commands of a tool; the file comes after their arguments. -/
structure ToolSettings where
  enabled : Bool
  program : String
  args : List String
  fixArgs : List String
deriving DecidableEq, Repr

namespace ToolSettings

def canFix (t : ToolSettings) : Bool :=
  !t.fixArgs.isEmpty

def form : Form ToolSettings :=
  .record "ToolConfig"
    (.cons "enabled" .flag (.defaultTo true)
      (.cons "program" .text .required
        (.cons "args" (.list .text) (.defaultTo [])
          (.cons "fix_args" (.list .text) (.defaultTo []) .nil))))
    (fun (enabled, program, args, fixArgs, _) => ⟨enabled, program, args, fixArgs⟩)
    (fun t => (t.enabled, t.program, t.args, t.fixArgs, ()))
    (fun _ => rfl)

end ToolSettings

structure ToolsSettings where
  prettier : ToolSettings
  eslint : ToolSettings
  typescript : ToolSettings
deriving DecidableEq, Repr

namespace ToolsSettings

def default : ToolsSettings where
  prettier := ⟨true, "npx", ["prettier", "--check"], ["prettier", "--write"]⟩
  eslint := ⟨true, "npx", ["eslint", "--format", "unix"], ["eslint", "--fix"]⟩
  typescript := ⟨true, "npx", ["tsc", "--noEmit", "--pretty", "false"], []⟩

instance : Inhabited ToolsSettings :=
  ⟨default⟩

def get (s : ToolsSettings) : Tool → ToolSettings
  | .prettier => s.prettier
  | .eslint => s.eslint
  | .typescript => s.typescript

def form : Form ToolsSettings :=
  .record "ToolsConfig"
    (.cons "prettier" ToolSettings.form (.defaultTo default.prettier)
      (.cons "eslint" ToolSettings.form (.defaultTo default.eslint)
        (.cons "typescript" ToolSettings.form (.defaultTo default.typescript) .nil)))
    (fun (prettier, eslint, typescript, _) => ⟨prettier, eslint, typescript⟩)
    (fun s => (s.prettier, s.eslint, s.typescript, ()))
    (fun _ => rfl)

end ToolsSettings

structure RemediationSettings where
  revalidate : Bool
deriving DecidableEq, Repr

namespace RemediationSettings

def default : RemediationSettings :=
  ⟨false⟩

instance : Inhabited RemediationSettings :=
  ⟨default⟩

def form : Form RemediationSettings :=
  .record "RemediationConfig"
    (.cons "revalidate" .flag (.defaultTo default.revalidate) .nil)
    (fun (revalidate, _) => ⟨revalidate⟩)
    (fun r => (r.revalidate, ()))
    (fun _ => rfl)

end RemediationSettings

structure Settings where
  logging : LoggingSettings
  hook : HookSettings
  tools : ToolsSettings
  policy : PolicySettings
  remediation : RemediationSettings
deriving DecidableEq, Repr

namespace Settings

def default : Settings :=
  ⟨.default, .default, .default, .default, .default⟩

instance : Inhabited Settings :=
  ⟨default⟩

def form : Form Settings :=
  .record "Config"
    (.cons "logging" LoggingSettings.form (.defaultTo .default)
      (.cons "hook" HookSettings.form (.defaultTo .default)
        (.cons "tools" ToolsSettings.form (.defaultTo .default)
          (.cons "policy" PolicySettings.form (.defaultTo .default)
            (.cons "remediation" RemediationSettings.form (.defaultTo .default) .nil)))))
    (fun (logging, hook, tools, policy, remediation, _) =>
      ⟨logging, hook, tools, policy, remediation⟩)
    (fun s => (s.logging, s.hook, s.tools, s.policy, s.remediation, ()))
    (fun _ => rfl)

end Settings
end QualityGate
