import QualityGate.Shell.Builtin
import QualityGate.Shell.Reader

namespace QualityGate.Shell

structure Purpose where
  /-- Something else depends on how the command ends, so that it cannot count as a failure. -/
  tested : Bool
  /-- The shell has nothing else to do, so that a program takes its place. -/
  last : Bool

namespace Purpose

def test : Purpose := ⟨true, false⟩

def among (p : Purpose) : Purpose :=
  { p with last := false }

def alone (p : Purpose) : Purpose :=
  { p with last := true }

def plain : Purpose := ⟨false, false⟩

end Purpose

/-- What is left of a copy of the shell: its effects on files and streams, the signals that it
sent, and how it ended. -/
def Session.after (before after : Session) : Session :=
  { before with
    tree := after.tree
    streams := after.streams
    signals := after.signals
    status := after.status
    nextProcess := after.nextProcess }

/-- The session of a shell that is started as a program: it has the environment, and ignores the
signals that are ignored. -/
def Session.child (s : Session) : Session :=
  { Session.start s.tree s.cwd s.streams s.descriptors s.environment with
    traps := s.traps.filter fun t => t.2.isEmpty
    process := s.nextProcess
    nextProcess := s.nextProcess + 1 }

def Session.copy (s : Session) : Session :=
  { s with
    traps := s.traps.filter fun t => t.2.isEmpty
    isCopy := true }

def redirecting {α : Type} (descriptors : List Nat) (run : ShellM α) : ShellM α := do
  let before ← get
  let r ← run
  modify fun s => descriptors.foldl (fun s d => s.direct d (before.streamOf? d)) s
  return r

def Session.deadly? (s : Session) : Option Nat :=
  s.signals.find? fun n =>
    n = 9 || ((s.traps.lookup n).isNone && !Signal.harmless.contains n)

def unlessKilled (run : ShellM Flow) : ShellM Flow := do
  let s ← get
  match if s.isCopy then none else s.deadly? with
  | some signal => return .died signal
  | none => run

def abort (message : String) : ShellM Flow :=
  unlessKilled do
    complain message
    setStatus 2
    return .failed

/-- A process has come to its end. If a signal is to blame the shell tells so, unless the process
has taken its place. -/
def bury (p : Purpose) (flow : Flow) : ShellM Flow := do
  let hasTraps := (← get).traps.any fun t => !t.2.isEmpty
  match flow with
  | .died signal =>
    if p.last && !hasTraps then return flow
    else
      if !Signal.quiet.contains signal then writeText 2 (Signal.obituary signal ++ "\n")
      setStatus (128 + signal)
      return .on
  | _ =>
    modify fun s => { s with status := s.status % 256 }
    return .on

/-- What a loop makes of the flow of its body: whether it goes on, and how the script does if
not. -/
def Flow.inLoop : Flow → Bool × Flow
  | on => (true, on)
  | leave n => (false, if n ≤ 1 then on else leave (n - 1))
  | again n => if n ≤ 1 then (true, on) else (false, again (n - 1))
  | flow => (false, flow)

def Flow.isAlive : Flow → Bool
  | stop | failed | died _ => false
  | _ => true

def checked (p : Purpose) (flow : Flow) : ShellM Flow := do
  let s ← get
  return if flow.isAlive && !p.tested && s.options.contains 'e' && s.status ≠ 0 then .stop else flow

def Session.summons (s : Session) : List String :=
  (s.traps.mergeSort fun t u => t.1 ≤ u.1).filterMap fun (signal, action) =>
    if signal ≠ 0 && s.signals.contains signal && !action.isEmpty then some action else none

/-- A redirect whose target is known. What a document says is found only when it is opened. -/
structure Diversion where
  descriptor : Nat
  direction : Direction
  target : String
  document : Word

section

variable (output : Script → ShellM (List UInt8))

/-- The targets of redirects are expanded. Only digits and a dash stand for descriptors. -/
def diversionsOf : List Redirect → Attempt (List Diversion)
  | [] => return []
  | ⟨descriptor, direction, target⟩ :: rs => do
    let here ← if direction = .document then pure ⟨descriptor, direction, "", target⟩ else do
      let text ← expandText output false target
      let isDescriptor := text = "-" || (text.length = 1 && text.all Char.isDigit)
      if direction = .copy && !isDescriptor then throw "Syntax error: Bad fd number"
      pure ⟨descriptor, direction, text, []⟩
    return here :: (← diversionsOf rs)

def redirect (r : Diversion) : Attempt Unit := do
  let s ← get
  let opened (x : Except String (Session × Nat)) : Attempt Unit := do
    let (s, stream) ← liftExcept x
    set (s.direct r.descriptor (some stream))
  match r.direction with
  | .read => opened (s.openRead r.target)
  | .write => opened (s.openWrite r.target false false)
  | .append => opened (s.openWrite r.target true true)
  | .readWrite => opened (s.openWrite r.target true false)
  | .document =>
    let ms ← expandWord output false r.document
    modify fun s =>
      s.attach r.descriptor (.buffer (Text.Utf8.encode (Mark.text s.glue ms)))
  | .copy =>
    let source := (Text.Digits.natural? 10 r.target.toList).bind s.streamOf?
    set (s.direct r.descriptor source)
    if source.isNone && r.target ≠ "-" then throw (r.target ++ ": Bad file descriptor")

/-- The arguments of a command that marks variables: its assignments are not split. -/
def expandAssignments : List Word → Attempt (List String)
  | [] => return []
  | w :: ws => do
    let here ← match w.assignment? with
      | some (name, value) => do pure [name ++ "=" ++ (← expandText output true value)]
      | none => expandFields output w
    return here ++ (← expandAssignments ws)

def expandCommand : List Word → Attempt (List String)
  | [] => return []
  | w :: ws => do
    let first ← expandFields output w
    let isMark (name : String) : Bool := Builtin.takesAssignments name
    match first with
    | [] => expandCommand ws
    | [name] =>
      let isNext := name = "command" && (ws.head?.bind Word.bare?).any isMark
      if isMark name || isNext then return name :: (← expandAssignments output ws)
      else return name :: (← expandAll output ws)
    | _ => return first ++ (← expandAll output ws)

end

/-- What a command is once the builtin that only passes it on is left away: whether that was there,
and the fields. -/
def passedOn (isFunction : String → Bool) : Nat → List String → Bool × List String
  | 0, fields => (false, fields)
  | _ + 1, [] => (false, [])
  | fuel + 1, name :: args =>
    if name = "command" && !isFunction name then
      let rest := args.dropWhile fun a => a = "-p"
      let rest := if rest.head? = some "--" then rest.tail else rest
      match rest with
      | [] => (true, [name])
      | a :: _ =>
        if a.toList.head? = some '-' then (true, name :: args)
        else (true, (passedOn isFunction fuel rest).2)
    else (false, name :: args)

/-- What is said of a program that cannot be run, and the status of the command. Names that lead
to directories in any place where programs are kept are not looked for elsewhere. -/
def refusalOf (name : String) : SpawnError → String × Nat
  | .permissionDenied => ("Permission denied", 126)
  | .nameTooLong => ("File name too long", 127)
  | .argumentsTooLong => ("Argument list too long", 126)
  | _ => (if name = "" || name = "." || name = ".." then "Permission denied" else "not found", 127)

def callLimit : Nat := 1000

/-- How a shell is called: with options, then a script or a file, and the parameters. -/
structure Call where
  options : List Char
  script : Option String
  file : Option String
  name : String
  params : List String

def Call.optionsFrom (options : List Char) (hasScript : Bool) :
    Nat → List String → Except String (List Char × Bool × List String)
  | 0, args => .ok (options, hasScript, args)
  | _ + 1, [] => .ok (options, hasScript, [])
  | fuel + 1, a :: args =>
    let turned (isOn : Bool) (letters : List Char) :
        Except String (List Char × Bool × List String) := do
      let others := letters.filter fun c => c ≠ 'c' && c ≠ 'l'
      let (options, rest) ← Builtin.turnLetters isOn others args options
      Call.optionsFrom options (hasScript || letters.contains 'c') fuel rest
    match a.toList with
    | ['-'] | ['-', '-'] => .ok (options, hasScript, args)
    | '-' :: letters => turned true letters
    | '+' :: letters => turned false letters
    | _ => .ok (options, hasScript, a :: args)

def Call.ofArgs (args : List String) : Except String Call := do
  let (options, hasScript, operands) ← Call.optionsFrom [] false (args.length + 1) args
  match hasScript, operands with
  | true, [] => throw "-c requires an argument"
  | true, [script] => return ⟨options, some script, none, "sh", []⟩
  | true, script :: name :: params => return ⟨options, some script, none, name, params⟩
  | false, [] => return ⟨options, none, none, "sh", []⟩
  | false, name :: params =>
    if options.contains 's' then return ⟨options, none, none, "sh", operands⟩
    else return ⟨options, none, some name, name, params⟩

def textAt (path : String) : Attempt String := do
  match (← get).openRead path with
  | .error message => throw message
  | .ok (s, stream) => return Text.Utf8.decodeLossy (s.pending stream)

mutual

def answerSignals : Nat → ShellM Flow
  | 0 => return .stop
  | fuel + 1 => do
    let s ← get
    if s.isCopy || s.signals.isEmpty then return .on
    else match s.deadly? with
      | some signal => return .died signal
      | none =>
        set { s with signals := [] }
        runTraps fuel s.summons

def runTraps : Nat → List String → ShellM Flow
  | 0, _ => return .stop
  | _ + 1, [] => return .on
  | fuel + 1, action :: actions => do
    let s ← get
    set { s with trapStatus := some s.status }
    let flow ← runText fuel .plain action
    modify fun t => { t with trapStatus := s.trapStatus }
    if flow = .on then
      setStatus s.status
      runTraps fuel actions
    else return flow

def finish : Nat → Flow → ShellM Flow
  | 0, flow => return flow
  | fuel + 1, flow => do
    match flow with
    | .died signal => return .died signal
    | _ => unlessKilled do
      let s ← get
      match s.traps.lookup 0 with
      | none => return .stop
      | some action =>
        set { s with
          traps := s.traps.filter (·.1 ≠ 0)
          trapStatus := some s.status }
        match ← runText fuel .plain action with
        | .died signal => return .died signal
        | .stop | .failed => return .stop
        | _ =>
          setStatus s.status
          return .stop

def runCopy : Nat → Purpose → ShellM Flow → ShellM Flow
  | 0, _, _ => return .stop
  | fuel + 1, p, run => do
    let before ← get
    set before.copy
    let flow ← finish fuel (← run)
    modify before.after
    bury p flow

def outputOf : Nat → Script → ShellM (List UInt8)
  | 0, _ => return []
  | _ + 1, .nothing => return []
  | fuel + 1, script => do
    let before ← get
    let _ ← runCopy fuel .plain do
      modify fun s => s.attach 1 (.buffer [])
      runScript fuel Purpose.plain.alone script
    modify fun s => { s with substituted := s.status, status := before.status }
    return (← get).pending before.streams.length

def runScript : Nat → Purpose → Script → ShellM Flow
  | 0, _, _ => return .stop
  | fuel + 1, p, script => do
    if (← get).options.contains 'n' then return .on
    match ← answerSignals fuel with
    | .on =>
      let flow ← runConstruct fuel p script
      match flow with
      | .on => answerSignals fuel
      | flow => return flow
    | flow => return flow

def runConstruct : Nat → Purpose → Script → ShellM Flow
  | 0, _, _ => return .stop
  | fuel + 1, p, script => do
    match script with
    | .nothing => return .on
    | .simple line assignments words redirects =>
      setLine line
      checked p (← runSimple fuel p assignments words redirects)
    | .pipe stages => checked p (← runStages fuel p stages)
    | .background body =>
      let number := (← get).nextProcess
      modify fun s => { s with nextProcess := number + 1 }
      let _ ← runCopy fuel .plain do
        modify fun s => s.attach 0 .nothing
        runScript fuel Purpose.plain.alone body
      modify fun s => { s with jobs := (number, s.status) :: s.jobs, status := 0 }
      return .on
    | .negate body =>
      let flow ← runScript fuel .test body
      if flow = .on then modify fun s => { s with status := if s.status = 0 then 1 else 0 }
      return flow
    | .both left right =>
      match ← runScript fuel .test left with
      | .on => if (← get).status = 0 then runScript fuel p right else return .on
      | flow => return flow
    | .either left right =>
      match ← runScript fuel .test left with
      | .on => if (← get).status = 0 then return .on else runScript fuel p right
      | flow => return flow
    | .inTurn left right =>
      match ← runScript fuel p.among left with
      | .on => runScript fuel p right
      | flow => return flow
    | .subshell line body redirects =>
      setLine line
      match ← (diversionsOf (outputOf fuel) redirects).run with
      | .error message => abort message
      | .ok diversions => unlessKilled do
        let flow ← runCopy fuel p do
          match ← (diversions.forM (redirect (outputOf fuel))).run with
          | .ok () => runScript fuel p.alone body
          | .error message => abort message
        checked p flow
    | .choice test yes no =>
      match ← runScript fuel .test test with
      | .on =>
        if (← get).status = 0 then runScript fuel p yes
        else match no with
          | .nothing =>
            setStatus 0
            return .on
          | no => runScript fuel p no
      | flow => return flow
    | .loop whileFails test body =>
      let loops := (← get).loops
      modify fun s => { s with loops := loops + 1 }
      let flow ← runLoop fuel p.among whileFails test body 0
      modify fun s => { s with loops }
      return flow
    | .each line name words body =>
      setLine line
      match ← (expandAll (outputOf fuel) words).run with
      | .error message => abort message
      | .ok values =>
        let loops := (← get).loops
        modify fun s => { s with loops := loops + 1 }
        if values.isEmpty then setStatus 0
        let flow ← runEach fuel p.among name body values
        modify fun s => { s with loops }
        return flow
    | .select line subject clauses =>
      setLine line
      match ← (expandText (outputOf fuel) false subject).run with
      | .error message => abort message
      | .ok value => runSelect fuel p value clauses
    | .redirected line body redirects =>
      setLine line
      match ← (diversionsOf (outputOf fuel) redirects).run with
      | .error message => abort message
      | .ok diversions => unlessKilled do
        redirecting (diversions.map Diversion.descriptor) do
          match ← (diversions.forM (redirect (outputOf fuel))).run with
          | .ok () => runScript fuel p.among body
          | .error message => unlessKilled do
            complain message
            setStatus 2
            checked p .on
    | .define name body =>
      modify fun s => { s with
        functions := (name, body) :: s.functions.filter (·.1 ≠ name)
        status := 0 }
      return .on

/-- Commands read what the one before them writes; the last of them tells how all end. -/
def runStages : Nat → Purpose → List Script → ShellM Flow
  | 0, _, _ => return .stop
  | _ + 1, _, [] => return .on
  | fuel + 1, p, [stage] => runCopy fuel p.among (runScript fuel p.alone stage)
  | fuel + 1, p, stage :: stages => do
    let before ← get
    let number := before.streams.length
    let _ ← runCopy fuel p.among do
      modify fun s => s.attach 1 (.buffer [])
      runScript fuel p.alone stage
    let s ← get
    set { (s.direct 0 (some number)) with status := before.status }
    let flow ← runStages fuel p stages
    modify fun s => s.direct 0 (before.streamOf? 0)
    return flow

/-- A loop runs on; if its body does not run again, it ends as the body did the last time. -/
def runLoop : Nat → Purpose → Bool → Script → Script → Nat → ShellM Flow
  | 0, _, _, _, _, _ => return .stop
  | fuel + 1, p, whileFails, test, body, last => do
    let flow ← runScript fuel .test test
    match flow with
    | .on =>
      if ((← get).status == 0) == whileFails then
        setStatus last
        return .on
      else
        let (goesOn, flow) := (← runScript fuel p body).inLoop
        if goesOn then runLoop fuel p whileFails test body (← get).status
        else return flow
    | flow =>
      let (goesOn, next) := flow.inLoop
      if goesOn then runLoop fuel p whileFails test body last
      else
        if next = .on then setStatus last
        return next

def runEach : Nat → Purpose → String → Script → List String → ShellM Flow
  | 0, _, _, _, _ => return .stop
  | _ + 1, _, _, _, [] => return .on
  | fuel + 1, p, name, body, value :: values => do
    match ← (assignVariable name value).run with
    | .error message => abort message
    | .ok () =>
      let (goesOn, flow) := (← runScript fuel p body).inLoop
      if goesOn then runEach fuel p name body values else return flow

def runSelect : Nat → Purpose → String → List (List Word × Script) → ShellM Flow
  | 0, _, _, _ => return .stop
  | _ + 1, _, _, [] => do
    setStatus 0
    return .on
  | fuel + 1, p, value, (patterns, body) :: clauses => do
    match patterns with
    | [] => runSelect fuel p value clauses
    | w :: ws =>
      match ← (expandPattern (outputOf fuel) w).run with
      | .error message => abort message
      | .ok pattern =>
        if pattern.isMatch value then
          match body with
          | .nothing =>
            setStatus 0
            return .on
          | body => runScript fuel p body
        else runSelect fuel p value ((ws, body) :: clauses)

/-- Assignments before a command, as they are told, with what the variables were before. -/
def assignAll : Nat → Bool → List (String × Word) → Attempt (List String × Frame)
  | 0, _, _ => return ([], [])
  | _ + 1, _, [] => return ([], [])
  | fuel + 1, exported, (name, word) :: rest => do
    let value ← expandText (outputOf fuel) true word
    let before := (← get).held? name
    assignVariable name value
    if exported then
      modify fun s => s.putVariable name ((s.held? name).map ({ · with exported := true }))
    let (shown, frame) ← assignAll fuel exported rest
    return ((name ++ "=" ++ value) :: shown, frame ++ [(name, before)])

def runSimple : Nat → Purpose → List (String × Word) → List Word → List Redirect → ShellM Flow
  | 0, _, _, _, _ => return .stop
  | fuel + 1, p, assignments, words, redirects => do
    modify fun s => { s with substituted := 0 }
    match ← (expandCommand (outputOf fuel) words).run with
    | .error message => abort message
    | .ok all => unlessKilled do
      let functions := (← get).functions
      let isFunction (name : String) : Bool := (functions.lookup name).isSome
      let (isPassed, fields) := passedOn isFunction (all.length + 1) all
      let isSpecial := !isPassed && fields.head?.any Builtin.isSpecial
      let isExec := fields.head? = some "exec"
      match ← (diversionsOf (outputOf fuel) redirects).run with
      | .error message => abort message
      | .ok diversions => unlessKilled do
        let errors := (← get).streamOf? 2
        redirecting (if isExec then [] else diversions.map Diversion.descriptor) do
          match ← (diversions.forM (redirect (outputOf fuel))).run with
          | .error message => unlessKilled do
            complain message
            setStatus 2
            return if isSpecial then .failed else .on
          | .ok () =>
            let isLasting := fields.isEmpty || isSpecial
            let exported := !isLasting || (isExec && 1 < fields.length)
            if !isLasting then modify fun s => { s with frames := [] :: s.frames }
            match ← (assignAll fuel exported assignments).run with
            | .error message => abort message
            | .ok (shown, frame) => unlessKilled do
              let s ← get
              if s.options.contains 'x' && !(shown ++ all).isEmpty then
                let line := (s.valueOf? "PS4").getD "" ++ " ".intercalate (shown ++ all) ++ "\n"
                errors.forM fun n => modify fun s => s.writeTo n (Text.Utf8.encode line)
              match fields with
              | [] =>
                modify fun s => { s with status := s.substituted }
                return .on
              | name :: args =>
                if isLasting then runCommand fuel p isPassed name args
                else
                  modify fun s => { s with frames := frame :: s.frames.tail }
                  let flow ← runCommand fuel p isPassed name args
                  modify fun s =>
                    (({ s with frames := s.frames.tail }).restore (s.frames.headD []))
                  return flow

def runCommand : Nat → Purpose → Bool → String → List String → ShellM Flow
  | 0, _, _, _, _ => return .stop
  | fuel + 1, p, isPassed, name, args => do
    let s ← get
    match (if isPassed then none else s.functions.lookup name), Builtin.exists? name with
    | some body, _ =>
      if s.calls = callLimit then
        abort ("Maximum function recursion depth (" ++ toString callLimit ++ ") reached")
      else
        set { s with params := args, loops := 0, calls := s.calls + 1 }
        let flow ← runScript fuel p.among body
        modify fun t => { t with params := s.params, loops := s.loops, calls := s.calls }
        return if flow = .back then .on else flow
    | none, true =>
      set { s with builtin := some name, lost := false }
      let flow ← match ← (runBuiltin fuel p name args).run with
        | .ok flow => pure flow
        | .error message => abort message
      let isLost := (← get).lost
      if isLost then
        complain (name ++ ": I/O error")
        modify fun t => { t with status := t.status ||| 1 }
      modify fun t => { t with builtin := s.builtin, lost := s.lost }
      return if flow = .failed && (isPassed || !Builtin.isSpecial name) then .on else flow
    | none, false =>
      match Program.find s.tree s.cwd name with
      | .ok program =>
        bury p (← runProgram fuel program args)
      | .error e =>
        let (message, status) := refusalOf name e
        complain (name ++ ": " ++ message)
        setStatus status
        return .on

def runBuiltin : Nat → Purpose → String → List String → Attempt Flow
  | 0, _, _, _ => return .stop
  | fuel + 1, p, name, args => do
    match Builtin.find? name with
    | some run =>
      let (status, flow) ← run args
      setStatus status
      return flow
    | none =>
      match name, args with
      | "eval", args =>
        let (_, operands) ← Builtin.options [] args
        runText fuel p.among (" ".intercalate operands)
      | "exec", args =>
        let (_, operands) ← Builtin.options [] args
        match operands with
        | [] =>
          setStatus 0
          return .on
        | program :: args =>
          let s ← get
          match Program.find s.tree s.cwd program with
          | .ok program =>
            set { s with traps := s.traps.filter (·.1 ≠ 0) }
            let flow ← runProgram fuel program args
            return if flow = .on then .stop else flow
          | .error e =>
            let (message, status) := refusalOf name e
            complain (program ++ ": " ++ message)
            setStatus status
            return .stop
      | ".", args =>
        let (_, operands) ← Builtin.options [] args
        match operands with
        | [] =>
          setStatus 0
          return .on
        | path :: _ =>
          if !path.toList.contains '/' then throw (path ++ ": not found")
          let text ← textAt path
          modify fun s => { s with builtin := some path }
          let flow ← runText fuel p.among text
          return if flow = .back then .on else flow
      | _, args =>
        let (os, operands) ← Builtin.options [('p', false), ('v', false), ('V', false)] args
        match operands with
        | [] => setStatus 0
        | word :: _ =>
          let isDetailed := os.any fun o => o.1 = 'V'
          setStatus (if ← Builtin.describe isDetailed word then 0 else 127)
        return .on

def runText : Nat → Purpose → String → ShellM Flow
  | 0, _, _ => return .stop
  | fuel + 1, p, text => runLines fuel p false ⟨.ofText text, none⟩

def runLines : Nat → Purpose → Bool → Reader → ShellM Flow
  | 0, _, _, _ => return .stop
  | fuel + 1, p, hasRun, reader => do
    match reader.next with
    | .error e =>
      setLine e.line
      abort e.message
    | .ok none =>
      if !hasRun then setStatus 0
      return .on
    | .ok (some (none, rest)) => runLines fuel p hasRun rest
    | .ok (some (some script, rest)) =>
      match ← runScript fuel p script with
      | .on => runLines fuel p true rest
      | flow => return flow

def runProgram : Nat → Program → List String → ShellM Flow
  | 0, _, _ => return .stop
  | fuel + 1, program, args => do
    match program with
    | .utility run =>
      setStatus (← run args)
      return .on
    | .shell =>
      let before ← get
      set before.child
      let flow ← match Call.ofArgs args with
        | .error message => abort message
        | .ok call =>
          modify fun s => { s with options := call.options, params := call.params }
          match call.script, call.file with
          | some script, _ =>
            modify fun s => { s with name := call.name }
            runText fuel .plain script
          | none, some file => do
            match ← (textAt file).run with
            | .ok text =>
              modify fun s => { s with name := call.name }
              runText fuel .plain text
            | .error message => abort message
          | none, none => do
            let bytes ← readAll 0
            runText fuel .plain (Text.Utf8.decodeLossy bytes)
      let flow ← finish fuel flow
      modify fun s => { before.after s with signals := before.signals, status := s.status % 256 }
      match flow with
      | .died signal => return .died signal
      | _ => return .on

end

end QualityGate.Shell
