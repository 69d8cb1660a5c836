import QualityGate.Gate.Collaborator
import QualityGate.Log.World

namespace QualityGate

inductive Call
  | check
  | fix
deriving DecidableEq, Repr

def Call.name : Call → String
  | check => "check"
  | fix => "fix"

inductive Cue
  | report (r : CheckReport)
  | fail (reason : String)
  | breakDown (b : Log.Breakdown)
deriving Repr

/-- What is left of a script, the last report given, and the calls so far. -/
structure Rehearsal where
  script : List Cue
  last : Option CheckReport
  calls : List Call
deriving Repr

namespace Rehearsal

def ofReports (reports : List CheckReport) : Rehearsal :=
  ⟨reports.map .report, none, []⟩

def ofFailure (reason : String) : Rehearsal :=
  ⟨[.fail reason], none, []⟩

def count (r : Rehearsal) (c : Call) : Nat :=
  r.calls.count c

def note (c : Call) (r : Rehearsal) : Rehearsal :=
  { r with calls := r.calls ++ [c] }

def nextCheck (file : String) (r : Rehearsal) :
    Except Log.Breakdown (Except GateError CheckReport) × Rehearsal :=
  let r := r.note .check
  match r.script with
  | [] => (.ok (.ok (r.last.getD .clean)), r)
  | .report report :: script => (.ok (.ok report), { r with script, last := some report })
  | .fail reason :: script => (.ok (.error (.checkerFailed file reason)), { r with script })
  | .breakDown b :: script => (.error b, { r with script })

end Rehearsal

inductive FixScript
  | success (b : Bool)
  | fail (reason : String)
deriving Repr

def FixScript.answer (file : String) : FixScript → Except GateError FixResult
  | success b => .ok ⟨b⟩
  | fail reason => .error (.fixerFailed file reason)

namespace Scripted

open Log

def checker : Checker (Fragile (WorldM Rehearsal)) where
  check file := ExceptT.mk (WorldM.step (Rehearsal.nextCheck file))

def fixer (script : FixScript) : Fixer (Fragile (WorldM Rehearsal)) where
  fix file _ := ExceptT.mk (WorldM.step fun r => (.ok (script.answer file), r.note .fix))

end Scripted
end QualityGate
