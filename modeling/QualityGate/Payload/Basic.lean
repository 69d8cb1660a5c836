import QualityGate.Error
import QualityGate.Path
import QualityGate.Wire.Text

namespace QualityGate

open Wire

structure Edit where
  oldString : String
  newString : String
deriving DecidableEq, Repr

/-- The arguments of the operation; only the file matters to the gate. -/
structure ToolInput where
  filePath : Option String
  content : Option String
  oldString : Option String
  newString : Option String
  edits : Option (List Edit)
deriving DecidableEq, Repr

structure Payload where
  toolName : Option String
  toolInput : Option ToolInput
deriving DecidableEq, Repr

def Edit.form : Form Edit :=
  .record "EditOp"
    (.cons "old_string" .text .required (.cons "new_string" .text .required .nil))
    (fun (oldString, newString, _) => ⟨oldString, newString⟩)
    (fun e => (e.oldString, e.newString, ()))
    (fun _ => rfl)

def ToolInput.form : Form ToolInput :=
  .record "ToolInput"
    (.cons "file_path" (.optional .text) (.defaultTo none)
      (.cons "content" (.optional .text) .ifAny
        (.cons "old_string" (.optional .text) .ifAny
          (.cons "new_string" (.optional .text) .ifAny
            (.cons "edits" (.optional (.list Edit.form)) .ifAny .nil)))))
    (fun (filePath, content, oldString, newString, edits, _) =>
      ⟨filePath, content, oldString, newString, edits⟩)
    (fun i => (i.filePath, i.content, i.oldString, i.newString, i.edits, ()))
    (fun _ => rfl)

namespace Payload

def form : Form Payload :=
  .record "HookPayload"
    (.cons "tool_name" (.optional .text) (.defaultTo none)
      (.cons "tool_input" (.optional ToolInput.form) (.defaultTo none) .nil))
    (fun (toolName, toolInput, _) => ⟨toolName, toolInput⟩)
    (fun p => (p.toolName, p.toolInput, ()))
    (fun _ => rfl)

def operation? (p : Payload) : Option String :=
  p.toolName.filter (· != "")

def filePath? (p : Payload) : Option String :=
  (p.toolInput.bind ToolInput.filePath).filter (· != "")

def fileName? (p : Payload) : Option String :=
  p.filePath?.map fun path => (Path.fileName? path).getD path

def parse (text : String) : Except GateError Payload :=
  (form.ofText text).mapError .payload

end Payload
end QualityGate
