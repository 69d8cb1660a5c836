import QualityGate.FileTree
import QualityGate.Log.Logger
import QualityGate.Log.World

namespace QualityGate

/-- What the libraries tell of their breakdowns. -/
structure Library where
  /-- The place at which a log file is opened. -/
  appender : String
  /-- The place and the words for a directive that is torn apart. -/
  directive : String → String × String

/-- What a run of the program finds, and leaves. -/
structure Workplace where
  tree : FileTree
  cwd : Place
  environment : List (String × String)
  now : Log.Moment
  library : Library
  /-- The logger that is at work. -/
  logger : Option Log.Logger

namespace Workplace

open Log

def directives (w : Workplace) : String :=
  (w.environment.lookup filterVariable).getD ""

def openLog (w : Workplace) (l : LoggingSettings) : Except OpenError (Option Place) × Workplace :=
  match l.logDir with
  | none => (.ok none, w)
  | some directory =>
    let (r, tree) := openFile w.tree w.cwd directory (fileNameAt l.rotation w.now)
    (r.map some, { w with tree })

/-- The directives before the one that is torn apart have been complained of by then. -/
def tornBreakdown (w : Workplace) : Breakdown :=
  let (item, complaints) := Filter.torn w.directives
  let (place, words) := w.library.directive item
  ⟨String.join (complaints.map (· ++ "\n")), place, words⟩

/-- A logger is started. A file that cannot be opened is fatal, and so are directives that are torn
apart. -/
def startLogger (l : LoggingSettings) (w : Workplace) :
    Except Breakdown (Except StartError Logger) × Workplace :=
  match levelOf? l.level with
  | none => (.ok (.error (.level l.level)), w)
  | some level =>
    match w.openLog l with
    | (.error e, w) => (.error ⟨"", w.library.appender, e.words⟩, w)
    | (.ok file, w) =>
      if Filter.isTorn w.directives && (file.isSome || l.enableStderr) then
        (.error w.tornBreakdown, w)
      -- by now the file is open, also if another logger is at work
      else match w.logger with
      | some _ => (.ok (.error .atWork), w)
      | none =>
        let logger : Logger := ⟨.ofText level w.directives, file, l.enableStderr⟩
        (.ok (.ok logger), { w with logger := some logger })

def directiveComplaints (w : Workplace) (l : LoggingSettings) : List String :=
  let complaints := if (levelOf? l.level).isSome then Filter.complaints w.directives else []
  (if l.logDir.isSome then complaints else []) ++ if l.enableStderr then complaints else []

def logFile? (w : Workplace) : Option Place :=
  w.logger.bind Logger.file

def logged (w : Workplace) (journal : List Log.Entry) : List Event :=
  match w.logger with
  | some l => if l.file.isSome then l.admitted journal else []
  | none => []

def shown (w : Workplace) (journal : List Log.Entry) : List Event :=
  match w.logger with
  | some l => if l.toStderr then l.admitted journal else []
  | none => []

end Workplace
end QualityGate
