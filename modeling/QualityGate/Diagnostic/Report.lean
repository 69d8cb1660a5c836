import QualityGate.Diagnostic.Tool

namespace QualityGate

structure ToolReport where
  errors : List String
deriving DecidableEq, Repr, Inhabited

structure ToolReports where
  prettier : Option ToolReport
  eslint : Option ToolReport
  typescript : Option ToolReport
deriving DecidableEq, Repr, Inhabited

namespace ToolReports

def empty : ToolReports :=
  ⟨none, none, none⟩

def get (r : ToolReports) : Tool → Option ToolReport
  | .prettier => r.prettier
  | .eslint => r.eslint
  | .typescript => r.typescript

def set (r : ToolReports) (t : Tool) (report : ToolReport) : ToolReports :=
  match t with
  | .prettier => { r with prettier := some report }
  | .eslint => { r with eslint := some report }
  | .typescript => { r with typescript := some report }

def errors (r : ToolReports) (t : Tool) : List String :=
  match r.get t with
  | some report => report.errors
  | none => []

theorem get_set (r : ToolReports) (t u : Tool) (report : ToolReport) :
    (r.set t report).get u = if u = t then some report else r.get u := by
  cases t <;> cases u <;> rfl

end ToolReports

structure CheckReport where
  success : Bool
  tools : ToolReports
deriving DecidableEq, Repr, Inhabited

namespace CheckReport

def clean : CheckReport :=
  ⟨true, .empty⟩

def unexplained : CheckReport :=
  ⟨false, .empty⟩

def errors (r : CheckReport) (t : Tool) : List String :=
  r.tools.errors t

def errorCount (r : CheckReport) : Nat :=
  (Tool.all.flatMap r.errors).length

def failingTools (r : CheckReport) : List Tool :=
  Tool.all.filter fun t => !(r.errors t).isEmpty

end CheckReport

open Wire

def ToolReport.form : Form ToolReport :=
  .record "ToolReport"
    (.cons "errors" (.list .text) (.defaultTo []) .nil)
    (fun (errors, _) => ⟨errors⟩)
    (fun r => (r.errors, ()))
    (fun _ => rfl)

def ToolReports.form : Form ToolReports :=
  .record "Checkers"
    (.cons "prettier" (.optional ToolReport.form) .ifAny
      (.cons "eslint" (.optional ToolReport.form) .ifAny
        (.cons "typescript" (.optional ToolReport.form) .ifAny .nil)))
    (fun (prettier, eslint, typescript, _) => ⟨prettier, eslint, typescript⟩)
    (fun r => (r.prettier, r.eslint, r.typescript, ()))
    (fun _ => rfl)

def CheckReport.form : Form CheckReport :=
  .record "CheckReport"
    (.cons "success" .flag .required
      (.cons "checkers" ToolReports.form (.defaultTo .empty) .nil))
    (fun (success, tools, _) => ⟨success, tools⟩)
    (fun r => (r.success, r.tools, ()))
    (fun _ => rfl)

end QualityGate
