import QualityGate.Host
import QualityGate.Report.Emission
import QualityGate.Sandbox
import QualityGate.Settings.Load

namespace QualityGate

structure Facilities (m : Type → Type) where
  /-- The settings of the project, or those of the given file. -/
  settings : Option String → Except LoadError Settings
  /-- Starts a logger, and gives what there is to say about that. -/
  startLogger : LoggingSettings → m Output
  host : Host m

namespace Facilities

open Log

def saying (complaints : List String) (r : Except StartError Logger) : Output :=
  let said := complaints.foldr (fun s rest => Output.errorLine s ++ rest) .empty
  said ++ match r with
    | .ok _ => .empty
    | .error e => .errorLine ("quality-hook: logging disabled: " ++ e.message)

def start (l : LoggingSettings) : Fragile (WorldM Workplace) (Except StartError Logger) := do
  let r ← ExceptT.mk (WorldM.step (Workplace.startLogger l))
  if r.toBool then
    event .debug .logger "logger initialized" ["level", "format", "file_output", "stderr_output"]
  return r

def announce (w : Workplace) (l : LoggingSettings) : Fragile (WorldM Workplace) Output := do
  let r ← start l
  return saying (w.directiveComplaints l) r

def atWorkplace {m : Type → Type} [Monad m] [MonadLiftT (WorldM Workplace) m] (w : Workplace)
    (host : Host (Fragile m)) : Facilities (Fragile m) where
  settings file := Settings.load w.tree w.cwd w.environment file
  startLogger l := ExceptT.mk (liftM (announce w l).run)
  host := host

def ofWorkplace (w : Workplace) : Facilities (Fragile (Stalling (WorldM Workplace))) :=
  atWorkplace w Sandbox.host.lift

end Facilities
end QualityGate
