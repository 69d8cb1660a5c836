import QualityGate.Gate.Run
import QualityGate.Host
import QualityGate.Proofs.Recording

namespace QualityGate

open Recording

inductive Turn
  | checkCalled (file : String)
  | checkReturned (answer : Except GateError CheckReport)
  | fixCalled (file : String) (report : CheckReport)
  | fixReturned (answer : Except GateError FixResult)
  | performed (c : Command) (answer : Except SpawnError Completion)

variable {m : Type → Type} [Monad m]

def Host.recorded (h : Host m) : Host (Recording Turn m) where
  perform c := do
    let answer ← StateT.lift (h.perform c)
    note (.performed c answer)
    return answer

def Checker.marked (c : Checker (Recording Turn m)) : Checker (Recording Turn m) where
  check file := do
    note (.checkCalled file)
    let answer ← c.check file
    note (.checkReturned answer)
    return answer

def Fixer.marked (f : Fixer (Recording Turn m)) : Fixer (Recording Turn m) where
  fix file report := do
    note (.fixCalled file report)
    let answer ← f.fix file report
    note (.fixReturned answer)
    return answer

namespace Gate

def restaff {n : Type → Type} (g : Gate m) (checker : Checker n) (fixer : Fixer n) : Gate n :=
  ⟨checker, fixer, g.formatter, g.policy, g.revalidate⟩

omit [Monad m] in
@[simp]
theorem restaff_revalidate {n : Type → Type} (g : Gate m) (checker : Checker n) (fixer : Fixer n) :
    (g.restaff checker fixer).revalidate = g.revalidate := rfl

/-- The calls of the collaborators and their answers are noted. -/
def marked (g : Gate (Recording Turn m)) : Gate (Recording Turn m) :=
  g.restaff g.checker.marked g.fixer.marked

/-- The gate with collaborators that note nothing of what they do, but are noted themselves. -/
def recorded (g : Gate m) : Gate (Recording Turn m) :=
  (g.restaff ⟨fun file => StateT.lift (g.checker.check file)⟩
    ⟨fun file report => StateT.lift (g.fixer.fix file report)⟩).marked

end Gate

variable [LawfulMonad m]

theorem Host.records_recorded (h : Host m) (c : Command) :
    Records (fun l answer => l = [.performed c answer]) (h.recorded.perform c) (h.perform c) :=
  (Records.lift _).bind_note _ fun l _ hl => by rw [hl, List.nil_append]

variable {C : String → List Turn → Except GateError CheckReport → Prop}
  {F : String → CheckReport → List Turn → Except GateError FixResult → Prop}

theorem Checker.records_marked {c' : Checker (Recording Turn m)} {c : Checker m} (file : String)
    (h : Records (C file) (c'.check file) (c.check file)) :
    Records (fun l answer => ∃ l', C file l' answer ∧
        l = .checkCalled file :: l' ++ [.checkReturned answer])
      (c'.marked.check file) (c.check file) :=
  .note_bind _ <| h.bind_note _ fun l _ hl => ⟨l, hl, rfl⟩

theorem Fixer.records_marked {f' : Fixer (Recording Turn m)} {f : Fixer m} (file : String)
    (report : CheckReport) (h : Records (F file report) (f'.fix file report) (f.fix file report)) :
    Records (fun l answer => ∃ l', F file report l' answer ∧
        l = .fixCalled file report :: l' ++ [.fixReturned answer])
      (f'.marked.fix file report) (f.fix file report) :=
  .note_bind _ <| h.bind_note _ fun l _ hl => ⟨l, hl, rfl⟩

end QualityGate
