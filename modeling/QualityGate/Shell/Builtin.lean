import QualityGate.Shell.Expansion
import QualityGate.Shell.Program
import QualityGate.Shell.Signal

namespace QualityGate.Shell

/-- How a script goes on after a command. -/
inductive Flow
  | on
  /-- The given number of loops is left. -/
  | leave (loops : Nat)
  /-- The loop that the given number leads to starts its next turn. -/
  | again (loops : Nat)
  /-- The function is left, or what else goes by its own end. -/
  | back
  /-- The shell comes to its end. -/
  | stop
  /-- The shell comes to its end because of an error, unless a builtin command is to blame that
  may fail. -/
  | failed
  /-- A signal puts an end to the shell. -/
  | died (signal : Nat)
deriving DecidableEq, Repr

/-- A builtin command ends with a status and tells how the script goes on, or fails. -/
abbrev Builtin := List String → Attempt (Nat × Flow)

namespace Builtin

def regular : List String :=
  ["[", "alias", "cd", "command", "echo", "false", "getopts", "hash", "jobs", "kill", "local",
    "printf", "pwd", "read", "test", "true", "type", "ulimit", "umask", "unalias", "wait"]

def isSpecial (name : String) : Bool :=
  specialBuiltins.contains name || name = "local"

def exists? (name : String) : Bool :=
  isSpecial name || regular.contains name

def takesAssignments (name : String) : Bool :=
  ["export", "local", "readonly"].contains name

def lettersOf (allowed : List (Char × Bool)) :
    List Char → List String → Except String (List (Char × String) × List String)
  | [], args => .ok ([], args)
  | c :: cs, args =>
    match allowed.lookup c, cs, args with
    | none, _, _ => .error ("Illegal option -" ++ c.toString)
    | some false, _, _ => (lettersOf allowed cs args).map fun (os, rest) => ((c, "") :: os, rest)
    | some true, _ :: _, _ => .ok ([(c, String.ofList cs)], args)
    | some true, [], a :: rest => .ok ([(c, a)], rest)
    | some true, [], [] => .error ("No arg for -" ++ c.toString ++ " option")

def optionsFrom (allowed : List (Char × Bool)) :
    Nat → List String → Except String (List (Char × String) × List String)
  | 0, args => .ok ([], args)
  | _ + 1, [] => .ok ([], [])
  | fuel + 1, a :: args =>
    match a.toList with
    | '-' :: c :: cs =>
      if a = "--" then .ok ([], args)
      else do
        let (os, rest) ← lettersOf allowed (c :: cs) args
        let (more, operands) ← optionsFrom allowed fuel rest
        return (os ++ more, operands)
    | _ => .ok ([], a :: args)

def options (allowed : List (Char × Bool)) (args : List String) :
    Attempt (List (Char × String) × List String) :=
  match optionsFrom allowed (args.length + 1) args with
  | .ok r => return r
  | .error message => throw message

def countOf (arg : String) : Attempt Nat :=
  match Numeral.count? arg with
  | some n => return n
  | none => throw (Numeral.refusal arg)

def quoteFrom : Nat → List Char → List Char
  | 0, _ => []
  | fuel + 1, cs =>
    let (plain, rest) := cs.span (· ≠ '\'')
    let (quotes, rest) := rest.span (· = '\'')
    let here := ['\''] ++ plain ++ ['\''] ++ if quotes.isEmpty then [] else ['"'] ++ quotes ++ ['"']
    if rest.isEmpty then here else here ++ quoteFrom fuel rest

def quote (s : String) : String :=
  String.ofList (quoteFrom (s.length + 1) s.toList)

def showVariables (start : String) (test : Variable → Bool) : Attempt Unit := do
  let shown := (← get).bindings.filter fun v => test v.2
  (shown.mergeSort fun v w => v.1 ≤ w.1).forM fun (name, v) =>
    let value := match v.value with
      | some s => "=" ++ quote s
      | none => ""
    writeText 1 (start ++ name ++ value ++ "\n")

def partsOf (arg : String) : String × Option String :=
  let (name, rest) := arg.toList.span (· ≠ '=')
  (String.ofList name, rest.tail? |>.map String.ofList)

def checkName (name : String) : Attempt Unit := do
  if !isName name.toList then throw (name ++ ": bad variable name")

def markVariables (name : String) (mark : Variable → Variable) (isMarked : Variable → Bool) :
    Builtin := fun args => do
  let (os, operands) ← options [('p', false)] args
  if operands.isEmpty || !os.isEmpty then showVariables (name ++ " ") isMarked
  else operands.forM fun a => do
    let (name, value) := partsOf a
    checkName name
    match value with
    | some v => assignVariable name v
    | none => pure ()
    modify fun s => s.putVariable name (some (mark ((s.held? name).getD ⟨none, false, false⟩)))
  return (0, .on)

def unset : Builtin := fun args => do
  let (os, operands) ← options [('v', false), ('f', false)] args
  let ofFunctions := (os.getLast?.map Prod.fst) = some 'f'
  operands.forM fun name => do
    if ofFunctions then
      modify fun s => { s with functions := s.functions.filter (·.1 ≠ name) }
    else
      checkName name
      match (← get).unset name with
      | .ok s => set s
      | .error message => throw message
  return (0, .on)

def makeLocal : Builtin := fun args => do
  match (← get).frames with
  | [] => throw "not in a function"
  | frame :: frames =>
    let kept ← args.filterMapM fun a => do
      let (name, value) := partsOf a
      if name = "-" then return none
      checkName name
      let before := (← get).held? name
      match value with
      | some v => assignVariable name v
      | none => pure ()
      return some (name, before)
    modify fun s => { s with frames := (kept.reverse ++ frame) :: frames }
    return (0, .on)

def optionNames : List (String × Char) :=
  [("errexit", 'e'), ("noglob", 'f'), ("ignoreeof", 'I'), ("interactive", 'i'), ("monitor", 'm'),
    ("noexec", 'n'), ("stdin", 's'), ("xtrace", 'x'), ("verbose", 'v'), ("vi", 'V'),
    ("emacs", 'E'), ("noclobber", 'C'), ("allexport", 'a'), ("notify", 'b'), ("nounset", 'u'),
    ("nolog", 'l'), ("debug", 'd')]

def optionLetters : List Char :=
  ['e', 'f', 'I', 'i', 'm', 'n', 's', 'x', 'v', 'V', 'E', 'C', 'a', 'b', 'u']

def turn (isOn : Bool) (letter : Char) (set : List Char) : List Char :=
  let others := set.filter (· ≠ letter)
  if isOn then letter :: others else others

/-- The options of a word are set or unset; those that go by a name take it from the arguments. -/
def turnLetters (isOn : Bool) :
    List Char → List String → List Char → Except String (List Char × List String)
  | [], args, set => .ok (set, args)
  | c :: cs, args, set =>
    if c = 'o' then
      match args with
      | [] => turnLetters isOn cs [] set
      | name :: args =>
        match optionNames.lookup name with
        | some letter => turnLetters isOn cs args (turn isOn letter set)
        | none => .error ("Illegal option -o " ++ name)
    else if optionLetters.contains c then turnLetters isOn cs args (turn isOn c set)
    else .error ("Illegal option -" ++ c.toString)

/-- Options are set and unset as the arguments tell, up to the first that is none; if there are
others, they become the parameters. -/
def setFrom : Nat → List String → Attempt Unit
  | 0, _ => return ()
  | _ + 1, [] => return ()
  | fuel + 1, a :: args => do
    let turned (isOn : Bool) (letters : List Char) : Attempt Unit := do
      let s ← get
      match turnLetters isOn letters args s.options with
      | .error message => throw message
      | .ok (set, rest) =>
        modify fun s => { s with options := set }
        setFrom fuel rest
    match a.toList with
    | ['-', '-'] => modify fun s => { s with params := args }
    | ['-'] =>
      modify fun s => { s with options := turn false 'x' (turn false 'v' s.options) }
      if !args.isEmpty then modify fun s => { s with params := args }
    | '-' :: letters => turned true letters
    | '+' :: letters => turned false letters
    | _ => modify fun s => { s with params := a :: args }

def setOptions : Builtin := fun args => do
  if args.isEmpty then showVariables "" fun v => v.value.isSome
  else setFrom (args.length + 1) args
  return (0, .on)

def shift : Builtin := fun args => do
  let n ← match args with
    | [] => pure 1
    | a :: _ => countOf a
  let s ← get
  if s.params.length < n then throw "can't shift that many"
  set { s with params := s.params.drop n }
  return (0, .on)

def nextOption : Builtin := fun args => do
  let (_, args) ← options [] args
  match args with
  | letters :: name :: rest =>
    let s ← get
    let words := if rest.isEmpty then s.params else rest
    let index := (((s.valueOf? "OPTIND").bind Numeral.count?).getD 1)
    let index := if index = 0 || words.length + 1 < index then 1 else index
    let isSilent := letters.toList.head? = some ':'
    let finish (letter : Char) (argument : Option String) (index : Nat) (left : List Char)
        (status : Nat) : Attempt (Nat × Flow) := do
      match argument with
      | some a => assignVariable "OPTARG" a
      | none => modify fun s => s.putVariable "OPTARG" none
      assignVariable "OPTIND" (Text.Digits.decimal index)
      modify fun s => { s with optionPlace := (index, left) }
      assignVariable name letter.toString
      return (status, .on)
    let ended (index : Nat) : Attempt (Nat × Flow) := do
      assignVariable "OPTIND" (Text.Digits.decimal index)
      modify fun s => { s with optionPlace := (index, []) }
      assignVariable name "?"
      return (1, .on)
    let (index, left) :=
      if s.optionPlace.1 = index && !s.optionPlace.2.isEmpty then (index, s.optionPlace.2)
      else match words[index - 1]?.map String.toList with
        | some ('-' :: c :: cs) => (index + 1, c :: cs)
        | _ => (index, [])
    match left with
    | [] => ended index
    | c :: left =>
      if left.isEmpty && c = '-' && words[index - 2]? = some "--" then ended index
      else match letters.toList.dropWhile (· ≠ c) with
        | [] =>
          if isSilent then finish '?' (some c.toString) index left 0
          else
            writeText 2 ("Illegal option -" ++ c.toString ++ "\n")
            finish '?' none index left 0
        | _ :: mark =>
          if mark.head? = some ':' then
            match left, words[index - 1]? with
            | _ :: _, _ => finish c (some (String.ofList left)) index [] 0
            | [], some a => finish c (some a) (index + 1) [] 0
            | [], none =>
              if isSilent then finish ':' (some c.toString) index [] 0
              else
                writeText 2 ("No arg for -" ++ c.toString ++ " option\n")
                finish '?' none index [] 0
          else finish c (some "") index left 0
  | _ => throw "Usage: getopts optstring var [arg]"

/-- What a line says to a reader for whom a backslash takes the meaning from the next character,
and whether the next line belongs to it. -/
def unescaped : List Char → List Mark × Bool
  | [] => ([], false)
  | ['\\'] => ([], true)
  | '\\' :: c :: cs =>
    let (ms, goesOn) := unescaped cs
    (.char true true c :: ms, goesOn)
  | c :: cs =>
    let (ms, goesOn) := unescaped cs
    (.char true false c :: ms, goesOn)

def readMarks (raw : Bool) : Nat → ShellM (List Mark × Bool)
  | 0 => return ([], false)
  | fuel + 1 => do
    let (bytes, ended) ← readLine 0
    let cs := (Text.Utf8.decodeLossy (bytes.filter (· ≠ 0))).toList
    if raw then return (cs.map (Mark.char true false), ended)
    else
      let (ms, goesOn) := unescaped cs
      if goesOn && ended then
        let (more, ended) ← readMarks raw fuel
        return (ms ++ more, ended)
      else return (ms, ended)

/-- The line is given to variables field by field. The last one takes what is left, without the
separator behind it if it is one field. -/
def assignFields (separators : List Char) : List String → List Mark → Attempt Unit
  | [], _ => return ()
  | name :: names, ms => do
    let isSeparator (m : Mark) : Bool := match m with
      | .char _ false c => separators.contains c
      | _ => false
    let isBlank (m : Mark) : Bool := isSeparator m && match m with
      | .char _ _ c => c = ' ' || c = '\t' || c = '\n'
      | _ => false
    let ms := ms.dropWhile isBlank
    let field := ms.takeWhile fun m => !isSeparator m
    let rest := (ms.drop field.length).dropWhile isBlank
    let behind := match rest with
      | m :: more => if isSeparator m then more.dropWhile isBlank else rest
      | [] => []
    let kept := if names.isEmpty && !behind.isEmpty then (ms.reverse.dropWhile isBlank).reverse
      else field
    checkName name
    assignVariable name (Mark.text "" kept)
    assignFields separators names behind

def readVariables : Builtin := fun args => do
  let (os, names) ← options [('p', true), ('r', false)] args
  if names.isEmpty then throw "arg count"
  let s ← get
  let size := ((s.streamOf? 0).map fun n => (s.pending n).length).getD 0
  let (ms, ended) ← readMarks (os.any fun o => o.1 = 'r') (size + 1)
  assignFields (← get).separators names ms
  return (if ended then 0 else 1, .on)

def changeDirectory : Builtin := fun args => do
  let (_, operands) ← options [('L', false), ('P', false)] args
  let s ← get
  let isBack := operands.head? = some "-"
  let target := match operands with
    | [] => s.valueOf? "HOME"
    | a :: _ => if isBack then s.valueOf? "OLDPWD" else some a
  match target.filter fun d => !d.isEmpty with
  | none => return (0, .on)
  | some path =>
    match s.tree.locate s.cwd path with
    | .ok place =>
      if s.tree.isDirectory place then
        set { s with cwd := place }
        assignVariable "OLDPWD" (Place.path s.cwd)
        assignVariable "PWD" (Place.path place)
        if isBack then writeText 1 (path ++ "\n")
        return (0, .on)
      else throw ("can't cd to " ++ path)
    | .error _ => throw ("can't cd to " ++ path)

def setTraps : Builtin := fun args => do
  let (_, operands) ← options [] args
  match operands with
  | [] =>
    ((← get).traps.mergeSort fun t u => t.1 ≤ u.1).forM fun (signal, action) =>
      writeText 1 ("trap -- " ++ quote action ++ " " ++
        (Signal.name? signal).getD (Text.Digits.decimal signal) ++ "\n")
    return (0, .on)
  | a :: rest =>
    let isNumber := (Text.Digits.natural? 10 a.toList).isSome && (Signal.ofText? a).isSome
    let (action, names) :=
      if rest.isEmpty || isNumber then (none, operands)
      else (if a = "-" then none else some a, rest)
    let known := names.takeWhile fun n => (Signal.ofText? n).isSome
    known.forM fun n => modify fun s =>
      let signal := (Signal.ofText? n).getD 0
      { s with
        traps := (action.map ((signal, ·))).toList ++ s.traps.filter (·.1 ≠ signal) }
    match names.drop known.length with
    | [] => return (0, .on)
    | n :: _ =>
      writeText 2 ("trap: " ++ n ++ ": bad trap\n")
      return (1, .on)

def killUsage : String :=
  "Usage: kill [-s sigspec | -signum | -sigspec] [pid | job]... or\nkill -l [exitstatus]"

def kill : Builtin := fun args => do
  let (signal, lists, targets) ← match args with
    | [] => throw killUsage
    | a :: rest =>
      match a.toList with
      | '-' :: name =>
        match Signal.toSend? (String.ofList name) with
        | some n => pure (some n, false, rest)
        | none => do
          let (os, operands) ← options [('l', false), ('s', true)] args
          let signal ← match os.find? fun o => o.1 = 's' with
            | none => pure none
            | some (_, name) =>
              match Signal.toSend? name with
              | some n => pure (some n)
              | none => throw ("invalid signal number or name: " ++ name)
          pure (signal, os.any fun o => o.1 = 'l', operands)
      | _ => pure (none, false, args)
  if lists then
    match targets with
    | [] =>
      writeText 1 "0\n"
      (List.range 31).forM fun n => writeText 1 ((Signal.name? (n + 1)).getD "" ++ "\n")
      return (0, .on)
    | t :: _ =>
      let n ← countOf t
      match (Signal.name? (if 128 < n then n - 128 else n)).filter (· ≠ "EXIT") with
      | some name =>
        writeText 1 (name ++ "\n")
        return (0, .on)
      | none => throw ("invalid signal number or exit status: " ++ t)
  else if targets.isEmpty then throw killUsage
  else
    let missed ← targets.filterM fun t => do
      let n ← countOf (if t.toList.head? = some '-' then String.ofList t.toList.tail else t)
      if n = (← get).process then
        modify fun s => { s with signals := s.signals ++ [signal.getD Signal.terminate] }
        return false
      else
        complain "No such process\n"
        return true
    return (if missed.isEmpty then 0 else 1, .on)

def describe (detailed : Bool) (name : String) : ShellM Bool := do
  let s ← get
  let tell (short long : String) : ShellM Bool := do
    writeText 1 ((if detailed then name ++ long else short) ++ "\n")
    return true
  if keywords.contains name then tell name " is a shell keyword"
  else if (s.functions.lookup name).isSome then tell name " is a shell function"
  else if specialBuiltins.contains name then tell name " is a special shell builtin"
  else if regular.contains name then tell name " is a shell builtin"
  else match Program.find s.tree s.cwd name with
    | .ok _ =>
      let path := if name.toList.contains '/' then name else Program.pathOf name
      tell path (" is " ++ path)
    | .error _ =>
      if detailed then writeText 1 (name ++ ": not found\n")
      return false

def type : Builtin := fun names => do
  let missed ← names.filterM fun n => do return !(← describe true n)
  return (if missed.isEmpty then 0 else 127, .on)

def wait : Builtin := fun args => do
  let (_, operands) ← options [] args
  let jobs := (← get).jobs
  let statuses ← operands.mapM fun a => do
    let n ← countOf a
    return (jobs.lookup n).getD 127
  return (statuses.getLast?.getD 0, .on)

def skipLoops (flow : Nat → Flow) : Builtin := fun args => do
  let n ← match args with
    | [] => pure 1
    | a :: _ => do
      let n ← countOf a
      if n = 0 then throw (Numeral.refusal a)
      pure n
  let loops := (← get).loops
  return (0, if loops = 0 then .on else flow (min n loops))

/-- The shell or a function ends with a status. A trap ends the shell with the status from before
it. -/
def leave (flow : Flow) : Builtin := fun args => do
  let s ← get
  match args with
  | [] => return (if flow = .stop then s.trapStatus.getD s.status else s.status, flow)
  | a :: _ => return (← countOf a, flow)

def ofUtility (run : (String → ShellM Unit) → Utility) : Builtin := fun args => do
  return (← run complain args, .on)

def find? (name : String) : Option Builtin :=
  let constantly (status : Nat) : Builtin := fun _ => return (status, .on)
  match name with
  | ":" | "true" | "hash" | "jobs" | "times" | "alias" | "unalias" => some (constantly 0)
  | "false" => some (constantly 1)
  | "echo" => some (ofUtility fun _ args => do
    writeBytes 1 (Printing.echo args)
    return 0)
  | "printf" => some fun args => do
    let (_, operands) ← options [] args
    return (← Utility.printf complain operands, .on)
  | "test" => some (ofUtility (Utility.test false))
  | "[" => some (ofUtility (Utility.test true))
  | "pwd" => some (ofUtility fun _ => Utility.pwd)
  | "cd" => some changeDirectory
  | "read" => some readVariables
  | "export" => some (markVariables name (fun v => { v with exported := true }) Variable.exported)
  | "readonly" => some (markVariables name (fun v => { v with readonly := true }) Variable.readonly)
  | "unset" => some unset
  | "local" => some makeLocal
  | "set" => some setOptions
  | "shift" => some shift
  | "getopts" => some nextOption
  | "trap" => some setTraps
  | "kill" => some kill
  | "type" => some type
  | "wait" => some wait
  | "umask" => some fun args => do
    if args.isEmpty then writeText 1 "0022\n"
    return (0, .on)
  | "ulimit" => some fun _ => do
    writeText 1 "unlimited\n"
    return (0, .on)
  | "break" => some (skipLoops .leave)
  | "continue" => some (skipLoops .again)
  | "exit" => some (leave .stop)
  | "return" => some (leave .back)
  | _ => none

end Builtin
end QualityGate.Shell
