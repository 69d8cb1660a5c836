import QualityGate.Gate.Assembly
import QualityGate.Gate.Guard
import QualityGate.Proofs.Gate.Transcript

namespace QualityGate

namespace Log

/-- Lifting leaves the log alone. -/
class LiftsJournal (m n : Type → Type) [Monad m] [Monad n] [MonadLiftT m n] [Journal m]
    [Journal n] : Prop extends LawfulMonadLiftT m n where
  lift_record (e : Event) : (liftM (Journal.record e : m Unit) : n Unit) = Journal.record e
  lift_within {α : Type} (span : Span) (x : m α) :
    (liftM (Journal.within span x) : n α) = Journal.within span (liftM x : n α)

section Instances

variable {m n : Type → Type} [Monad m] [Monad n] [Journal m] [Journal n]

instance : LiftsJournal m m where
  lift_record _ := rfl
  lift_within _ _ := rfl

variable [LawfulMonad n] [LawfulJournal n] [MonadLiftT m n] [LiftsJournal m n]

instance : LiftsJournal m (Fragile n) where
  lift_record e := congrArg ExceptT.lift (LiftsJournal.lift_record e)
  lift_within span x := by
    change ExceptT.mk (Except.ok <$> (liftM (Journal.within span x) : n _)) =
      ExceptT.mk (Journal.within span (Except.ok <$> (liftM x : n _)))
    rw [LiftsJournal.lift_within, LawfulJournal.within_map]

instance : LiftsJournal m (Stalling n) where
  lift_record e := congrArg OptionT.lift (LiftsJournal.lift_record e)
  lift_within span x := by
    refine OptionT.ext ?_
    change (OptionT.lift (liftM (Journal.within span x) : n _)).run =
      Journal.within span (OptionT.lift (liftM x : n _)).run
    rw [OptionT.run_lift, OptionT.run_lift, LiftsJournal.lift_within, bind_pure_comp,
      bind_pure_comp, LawfulJournal.within_map]

@[reducible]
def Fragile.lifting : MonadLiftT (Fragile m) (Fragile n) where
  monadLift x := ExceptT.mk (liftM x.run)

omit [LawfulJournal n] in
theorem Fragile.liftsJournal [LawfulMonad m] :
    letI := Fragile.lifting (m := m) (n := n)
    LiftsJournal (Fragile m) (Fragile n) := by
  let := Fragile.lifting (m := m) (n := n)
  refine { monadLift_pure := ?_, monadLift_bind := ?_, lift_record := ?_, lift_within := ?_ }
  · intro α a
    exact congrArg ExceptT.mk (liftM_pure (Except.ok a))
  · intro α β x f
    refine ExceptT.ext ?_
    change liftM (x >>= f).run = ((ExceptT.mk (liftM x.run) : Fragile n α) >>= fun a =>
      ExceptT.mk (liftM (f a).run)).run
    rw [ExceptT.run_bind, ExceptT.run_bind, liftM_bind]
    refine bind_congr fun r => ?_
    cases r with
    | ok a => rfl
    | error b => exact liftM_pure (Except.error b)
  · intro e
    refine ExceptT.ext ?_
    change liftM (Except.ok <$> (Journal.record e : m Unit)) =
      Except.ok <$> (Journal.record e : n Unit)
    rw [liftM_map, LiftsJournal.lift_record]
  · intro α span x
    exact congrArg ExceptT.mk (LiftsJournal.lift_within span x.run)

end Instances

end Log

open Log

variable {m n : Type → Type} [Monad m] [Monad n] [MonadLiftT m n] [Journal m] [Journal n]

def Checker.lift (c : Checker m) : Checker n where
  check file := liftM (c.check file)

def Fixer.lift (f : Fixer m) : Fixer n where
  fix file report := liftM (f.fix file report)

def Gate.lift (g : Gate m) : Gate n :=
  g.restaff g.checker.lift g.fixer.lift

variable [LiftsJournal m n]

@[simp]
theorem Log.lift_event (level : Level) (scope : Scope) (message : String) (others : List String) :
    (liftM (event level scope message others : m Unit) : n Unit) =
      event level scope message others :=
  LiftsJournal.lift_record _

namespace Toolbox

theorem perform_lift (host : Host m) (tool : Tool) (c : Command) :
    perform (host.lift : Host n) tool c = liftM (perform host tool c) := by
  simp only [perform, liftM_bind, lift_event, Host.lift]
  refine bind_congr fun _ => bind_congr fun answer => ?_
  cases answer with
  | error cause => simp only [liftM_bind, lift_event, liftM_pure]
  | ok c => simp only [liftM_pure]

theorem checkWith_lift (host : Host m) (settings : ToolsSettings) (file : String)
    (tools : List Tool) (report : CheckReport) :
    checkWith (host.lift : Host n) settings file tools report =
      liftM (checkWith host settings file tools report) := by
  induction tools generalizing report with
  | nil => simp only [checkWith, liftM_pure]
  | cons tool tools ih =>
    rw [checkWith, checkWith]
    split
    · simp only [liftM_bind, perform_lift]
      refine bind_congr fun answer => ?_
      cases answer with
      | error e => simp only [liftM_pure]
      | ok run => simp only [liftM_bind, lift_event, ih]
    · exact ih report

theorem fixWith_lift (host : Host m) (settings : ToolsSettings) (file : String)
    (tools : List Tool) (success : Bool) :
    fixWith (host.lift : Host n) settings file tools success =
      liftM (fixWith host settings file tools success) := by
  induction tools generalizing success with
  | nil => simp only [fixWith, liftM_bind, lift_event, liftM_pure]
  | cons tool tools ih =>
    simp only [fixWith, liftM_bind, perform_lift]
    refine bind_congr fun answer => ?_
    cases answer with
    | error e => simp only [liftM_pure]
    | ok run =>
      dsimp only
      split
      · simp only [liftM_bind, lift_event, ih]
      · simp only [ih]

theorem checker_lift (host : Host m) (settings : ToolsSettings) :
    checker (host.lift : Host n) settings = (checker host settings).lift :=
  congrArg Checker.mk <| funext fun file => checkWith_lift host settings file Tool.all .clean

theorem fixer_lift (host : Host m) (settings : ToolsSettings) :
    fixer (host.lift : Host n) settings = (fixer host settings).lift :=
  congrArg Fixer.mk <| funext fun file => funext fun report =>
    fixWith_lift host settings file (repairers settings report) true

end Toolbox

namespace Gate

omit [Monad m] [Monad n] [Journal m] [Journal n] [LiftsJournal m n] in
@[simp]
theorem lift_revalidate (g : Gate m) : (g.lift : Gate n).revalidate = g.revalidate := rfl

omit [Monad m] [Monad n] [Journal m] [Journal n] [LiftsJournal m n] in
@[simp]
theorem lift_formatter (g : Gate m) : (g.lift : Gate n).formatter = g.formatter := rfl

variable (g : Gate m) (file : String)

theorem outcomeOf_lift (report : CheckReport) :
    (g.lift : Gate n).outcomeOf file report = liftM (g.outcomeOf file report) := by
  unfold outcomeOf
  split
  · simp only [liftM_pure]
  · simp only [liftM_bind, lift_event, liftM_pure]
    rfl

theorem recheck_lift : (g.lift : Gate n).recheck file = liftM (g.recheck file) := by
  simp only [recheck, liftM_bind]
  refine bind_congr fun answer => ?_
  cases answer with
  | error e => simp only [liftM_bind, lift_event, liftM_pure]
  | ok report =>
    simp only [liftM_bind, outcomeOf_lift]
    refine bind_congr fun outcome => ?_
    split
    · simp only [liftM_bind, lift_event, liftM_pure]
    · simp only [liftM_bind, lift_event, liftM_pure]

theorem remediate_lift (report : CheckReport) :
    (g.lift : Gate n).remediate file report = liftM (g.remediate file report) := by
  simp only [remediate, liftM_bind, lift_event]
  refine bind_congr fun _ => bind_congr fun answer => ?_
  match answer with
  | .error e => simp only [liftM_bind, lift_event, liftM_pure]
  | .ok ⟨false⟩ => simp only [liftM_bind, lift_event, liftM_pure]
  | .ok ⟨true⟩ =>
    simp only [liftM_bind, lift_event]
    refine bind_congr fun _ => ?_
    rw [lift_revalidate]
    split
    · exact g.recheck_lift file
    · simp only [liftM_pure]

theorem settle_lift (draft : Draft) (decision : Decision) (e : Evaluation) (remedy : Remedy) :
    (g.lift : Gate n).settle draft decision e remedy =
      liftM (g.settle draft decision e remedy) := by
  cases remedy with
  | failed => simp only [settle, liftM_pure, lift_formatter]
  | resolved =>
    simp only [settle]
    split
    · simp only [liftM_bind, lift_event, liftM_pure]
    · simp only [liftM_pure]
  | revalidated outcome unresolved =>
    simp only [settle]
    split
    · simp only [liftM_pure]
    · simp only [liftM_bind, lift_event, liftM_pure]

theorem carryOut_lift (e : Evaluation) (decision : Decision) :
    (g.lift : Gate n).carryOut file e decision = liftM (g.carryOut file e decision) := by
  simp only [carryOut]
  split
  · simp only [liftM_bind, remediate_lift, settle_lift]
  · split
    · simp only [liftM_bind, lift_event, liftM_pure]
    · simp only [liftM_bind, lift_event, liftM_pure]

theorem assess_lift : (g.lift : Gate n).assess file = liftM (g.assess file) := by
  simp only [assess, liftM_bind, lift_event]
  refine bind_congr fun _ => bind_congr fun answer => ?_
  cases answer with
  | error e => simp only [liftM_pure]
  | ok report =>
    simp only [liftM_bind, lift_event, outcomeOf_lift]
    refine bind_congr fun outcome => bind_congr fun _ => ?_
    split
    · simp only [liftM_pure]
    · simp only [liftM_bind, lift_event, liftM_pure]

theorem process_lift : (g.lift : Gate n).process file = liftM (g.process file) := by
  simp only [process, liftM_bind, assess_lift]
  refine bind_congr fun answer => ?_
  cases answer with
  | error e => simp only [liftM_pure]
  | ok e =>
    cases hd : e.decision with
    | none => simp only [hd, liftM_bind, lift_event, liftM_pure]
    | some decision => simp only [hd, liftM_bind, lift_event, liftM_pure, carryOut_lift]

theorem run_lift (e : Errand) : (g.lift : Gate n).run e = liftM (g.run e) := by
  rw [run, run, LiftsJournal.lift_within, process_lift]

end Gate

theorem Gate.ofSettings_map_lift (host : Host m) (s : Settings) :
    ofSettings (host.lift : Host n) s = (ofSettings host s).map Gate.lift := by
  unfold ofSettings
  rw [Toolbox.checker_lift, Toolbox.fixer_lift]
  cases Policy.ofSettings s.policy <;> rfl

theorem Gate.ofSettings_lift {host : Host m} {s : Settings} {g : Gate m}
    (h : ofSettings host s = .ok g) : ofSettings (host.lift : Host n) s = .ok g.lift := by
  rw [ofSettings_map_lift, h, Except.map]

theorem Gate.guard_lift [LawfulMonad m] [LawfulJournal m] (g : Gate m) (feedback : Bool)
    (task : String) (notice : Breakdown → String) (e : Errand) :
    (g.lift : Gate (Fragile m)).guard feedback task notice e = (do
      match ← g.run e with
      | .ok report => return (report.status, .ofReport feedback report)
      | .error fault => forgive feedback e.correlationId fault.message) := by
  -- a lifted run always ends well, so the branch for breakdowns is never taken
  have hr : ((g.lift : Gate (Fragile m)).run e).run = Except.ok <$> g.run e := by
    rw [run_lift]
    rfl
  rw [guard, hr, bind_map_left]
  refine bind_congr fun result => ?_
  cases result <;> rfl

/-- The same host for computations that may do more, with the breakdowns that it has. -/
def Host.rebase (host : Host (Fragile m)) : Host (Fragile n) :=
  letI := Fragile.lifting (m := m) (n := n)
  host.lift

def Gate.rebase (g : Gate (Fragile m)) : Gate (Fragile n) :=
  letI := Fragile.lifting (m := m) (n := n)
  g.lift

section Rebase

variable [LawfulMonad m] [LawfulMonad n]

theorem Gate.ofSettings_rebase (host : Host (Fragile m)) (s : Settings) :
    ofSettings (host.rebase : Host (Fragile n)) s = (ofSettings host s).map Gate.rebase := by
  let := Fragile.lifting (m := m) (n := n)
  have := Fragile.liftsJournal (m := m) (n := n)
  exact ofSettings_map_lift host s

omit [LawfulMonad m] [LawfulMonad n] in
theorem Gate.forgive_lift (feedback : Bool) (correlationId fault : String) :
    (forgive feedback correlationId fault : n _) = liftM (forgive (m := m) feedback correlationId
      fault) := by
  simp only [forgive, liftM_bind, lift_event, liftM_pure]

theorem Gate.guard_rebase (g : Gate (Fragile m)) (feedback : Bool) (task : String)
    (notice : Breakdown → String) (e : Errand) :
    (g.rebase : Gate (Fragile n)).guard feedback task notice e =
      liftM (g.guard feedback task notice e) := by
  let := Fragile.lifting (m := m) (n := n)
  have := Fragile.liftsJournal (m := m) (n := n)
  have hr : ((g.rebase : Gate (Fragile n)).run e).run = liftM (g.run e).run :=
    congrArg ExceptT.run (g.run_lift e)
  rw [guard, guard, hr, liftM_bind]
  refine bind_congr fun result => ?_
  match result with
  | .ok (.ok report) => exact (liftM_pure _).symm
  | .ok (.error fault) => exact forgive_lift feedback e.correlationId fault.message
  | .error b => simp only [forgive_lift (m := m) (n := n), liftM_bind, liftM_pure]

end Rebase

end QualityGate
