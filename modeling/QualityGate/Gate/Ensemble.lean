import QualityGate.Gate.Scripted

namespace QualityGate

structure Promptbook where
  script : List Cue
  last : Option CheckReport
deriving Repr

def Rehearsal.book (r : Rehearsal) : Promptbook :=
  ⟨r.script, r.last⟩

structure Ensemble where
  books : List Promptbook
  logs : List (List Call)
deriving Repr

/-- A scripted checker, by the places of its script and its log. -/
structure CheckRole where
  book : Nat
  log : Nat
deriving DecidableEq, Repr

def CheckRole.keeping (role : CheckRole) (log : Nat) : CheckRole :=
  { role with log }

/-- A scripted fixer, by its answer to every call and the place of its log. -/
structure FixRole where
  script : FixScript
  log : Nat
deriving Repr

namespace Ensemble

open Log

def calls (e : Ensemble) (log : Nat) : List Call :=
  e.logs.getD log []

def count (e : Ensemble) (log : Nat) (c : Call) : Nat :=
  (e.calls log).count c

def openLog (e : Ensemble) : Nat × Ensemble :=
  (e.logs.length, { e with logs := e.logs ++ [[]] })

def engage (e : Ensemble) (r : Rehearsal) : CheckRole × Ensemble :=
  (⟨e.books.length, e.logs.length⟩, ⟨e.books ++ [r.book], e.logs ++ [r.calls]⟩)

def rehearsal (e : Ensemble) (role : CheckRole) : Rehearsal :=
  let book := e.books.getD role.book ⟨[], none⟩
  ⟨book.script, book.last, e.calls role.log⟩

def check (e : Ensemble) (role : CheckRole) (file : String) :
    Except Breakdown (Except GateError CheckReport) × Ensemble :=
  let (answer, w) := (Scripted.checker.check file).run (.start (e.rehearsal role))
  (answer, ⟨e.books.set role.book w.state.book, e.logs.set role.log w.state.calls⟩)

def fix (e : Ensemble) (role : FixRole) (file : String) (report : CheckReport) :
    Except Breakdown (Except GateError FixResult) × Ensemble :=
  let alone : Rehearsal := ⟨[], none, e.calls role.log⟩
  let (answer, w) := ((Scripted.fixer role.script).fix file report).run (.start alone)
  (answer, { e with logs := e.logs.set role.log w.state.calls })

end Ensemble

inductive Act
  | openLog
  | engage (r : Rehearsal)
  | check (role : CheckRole) (file : String)
  | fix (role : FixRole) (file : String) (report : CheckReport)

namespace Ensemble

def perform (e : Ensemble) : Act → Ensemble
  | .openLog => e.openLog.2
  | .engage r => (e.engage r).2
  | .check role file => (e.check role file).2
  | .fix role file report => (e.fix role file report).2

def play (e : Ensemble) (acts : List Act) : Ensemble :=
  acts.foldl perform e

end Ensemble
end QualityGate
