import QualityGate.Report.HookReport

namespace QualityGate

structure Output where
  stdout : String
  stderr : String
deriving DecidableEq, Repr, Inhabited

namespace Output

def empty : Output :=
  ⟨"", ""⟩

instance : Append Output where
  append a b := ⟨a.stdout ++ b.stdout, a.stderr ++ b.stderr⟩

def line (s : String) : Output :=
  ⟨s ++ "\n", ""⟩

def errorLine (s : String) : Output :=
  ⟨"", s ++ "\n"⟩

/-- A narration is a line for people and, if that is wanted, a line with the feedback object. -/
def ofNarration (feedback : Bool) (n : Narration) : Output :=
  ⟨n.message ++ "\n", if feedback then n.line ++ "\n" else ""⟩

def ofBlocking (m : BlockingMessage) : Output :=
  ⟨"", m.render⟩

def ofReport (feedback : Bool) (r : HookReport) : Output :=
  r.narration.foldr (fun n rest => ofNarration feedback n ++ rest)
    (match r.blocking with
      | some m => ofBlocking m
      | none => empty)

end Output
end QualityGate
