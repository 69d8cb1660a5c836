import QualityGate.Text.Digits

namespace QualityGate.Cli

/-- Why arguments ask for nothing that can be done. Help and the version are asked for in this way
too. -/
inductive UsageError
  | nothingAsked
  | missingCommand
  | unknownCommand
  | unknownArgument
  | unneededValue
  | missingValue
  | malformedValue
  | repeated
  | missingFile
  | help
  | version
deriving DecidableEq, Repr

def usage : String :=
  "\n".intercalate
    ["Quality gate for agent file edits: check, auto-fix, or block", "",
      "Usage: quality-hook [OPTIONS] <COMMAND>", "",
      "Commands:",
      "  hook [--payload-timeout-ms <MS>]  Take a payload from standard input and check its file",
      "  check <FILE> [--no-fix]           Check a file", "",
      "Options:",
      "  -j, --json           Write JSON",
      "  -c, --config <FILE>  Take the settings from this file",
      "  -h, --help           Tell how the program is used",
      "  -V, --version        Tell the version"]

def versionText : String := "quality-hook 0.1.0"

def UsageError.message : UsageError → String
  | nothingAsked | help => usage
  | version => versionText
  | missingCommand => "error: a command is required"
  | unknownCommand => "error: there is no such command"
  | unknownArgument => "error: an argument is not known"
  | unneededValue => "error: a flag takes no value"
  | missingValue => "error: an option needs a value"
  | malformedValue => "error: a value is malformed"
  | repeated => "error: an argument is given twice"
  | missingFile => "error: a file is required"

def UsageError.code : UsageError → Nat
  | help | version => 0
  | _ => 2

inductive Task
  /-- A payload is taken in, in the given time if one is given. -/
  | hook (payloadTimeoutMs : Option UInt64)
  /-- A file is checked. -/
  | check (file : String) (noFix : Bool)
deriving DecidableEq, Repr

structure Request where
  task : Task
  json : Bool
  /-- The file with the settings. -/
  config : Option String
deriving DecidableEq, Repr

inductive Level
  | outer
  | hook
  | check
deriving DecidableEq, Repr

inductive Topic
  | json
  | config
  | help
  | version
  | payloadTimeout
  | noFix
  | file
deriving DecidableEq, Repr

def Topic.takesValue : Topic → Bool
  | config | payloadTimeout | file => true
  | json | help | version | noFix => false

namespace Level

def topics : Level → List (String × Topic)
  | outer => [("json", .json), ("config", .config), ("help", .help), ("version", .version)]
  | hook => [("json", .json), ("config", .config), ("help", .help),
      ("payload-timeout-ms", .payloadTimeout)]
  | check => [("json", .json), ("config", .config), ("help", .help), ("no-fix", .noFix)]

def long? (l : Level) (name : String) : Option Topic :=
  l.topics.lookup name

def short? (l : Level) (c : Char) : Option Topic :=
  match c with
  | 'j' => some .json
  | 'c' => some .config
  | 'h' => some .help
  | 'V' => if l = outer then some .version else none
  | _ => none

end Level

/-- What is taken at a level. The last value may still have to be looked at. -/
structure Taken where
  flags : List Topic
  values : List (Topic × String)
  pending : Option (Topic × Option String)
deriving DecidableEq, Repr

namespace Taken

def empty : Taken :=
  ⟨[], [], none⟩

def value? (t : Taken) (topic : Topic) : Option String :=
  t.values.lookup topic

def has (t : Taken) (topic : Topic) : Bool :=
  t.flags.contains topic || (t.value? topic).isSome

end Taken

def maxMilliseconds : Nat := Nat.pow 2 64 - 1

def milliseconds? (s : String) : Option UInt64 :=
  let digits := match s.toList with
    | '+' :: cs => cs
    | cs => cs
  (Text.Digits.natural? 10 digits).bind fun n =>
    if n ≤ maxMilliseconds then some (UInt64.ofNat n) else none

def checkValue (topic : Topic) (value : String) : Except UsageError Unit :=
  match topic with
  | .config | .file => if value.isEmpty then .error .missingValue else .ok ()
  | .payloadTimeout => if (milliseconds? value).isSome then .ok () else .error .malformedValue
  | _ => .ok ()

def Taken.give (t : Taken) (topic : Topic) (value : Option String) : Except UsageError Taken := do
  match value with
  | none => .error .missingValue
  | some v =>
    if (t.value? topic).isSome then .error .repeated
    else
      checkValue topic v
      return { t with values := t.values ++ [(topic, v)] }

def Taken.settle (t : Taken) : Except UsageError Taken :=
  match t.pending with
  | none => .ok t
  | some (topic, value) => { t with pending := none }.give topic value

def Taken.raise (t : Taken) (topic : Topic) : Except UsageError Taken := do
  let t ← t.settle
  match topic with
  | .help => .error .help
  | .version => .error .version
  | _ =>
    if t.flags.contains topic then .error .repeated
    else return { t with flags := t.flags ++ [topic] }

/-- A value that is attached to its option is taken at once, and one that is to follow later. -/
def Taken.option (t : Taken) (topic : Topic) (attached : Option String) :
    Except UsageError Taken := do
  let t ← t.settle
  match attached with
  | some v => t.give topic (some v)
  | none => return { t with pending := some (topic, none) }

def takeLong (l : Level) (t : Taken) (cs : List Char) : Except UsageError Taken :=
  let name := cs.takeWhile (· ≠ '=')
  let attached := match cs.drop name.length with
    | _ :: value => some (String.ofList value)
    | [] => none
  match l.long? (String.ofList name) with
  | none => .error .unknownArgument
  | some topic =>
    if topic.takesValue then t.option topic attached
    else if attached.isSome then .error .unneededValue
    else t.raise topic

/-- An argument of letters after one dash. What follows the letter of an option is its value. -/
def takeShort (l : Level) : Taken → List Char → Except UsageError Taken
  | t, [] => .ok t
  | t, c :: cs =>
    match l.short? c with
    | none => .error .unknownArgument
    | some topic =>
      if topic.takesValue then
        let attached := match cs with
          | [] => none
          | '=' :: value => some (String.ofList value)
          | value => some (String.ofList value)
        t.option topic attached
      else do
        let t ← t.raise topic
        takeShort l t cs

inductive Command
  | hook
  | check
  | help
deriving DecidableEq, Repr

def commandOf? : String → Option Command
  | "hook" => some .hook
  | "check" => some .check
  | "help" => some .help
  | _ => none

def Taken.expecting? (t : Taken) : Option Topic :=
  match t.pending with
  | some (topic, none) => some topic
  | _ => none

def takePlain (l : Level) (trailing : Bool) (t : Taken) (a : String) : Except UsageError Taken :=
  match l with
  | .outer =>
    if trailing && (commandOf? a).isSome then .error .unknownArgument else .error .unknownCommand
  | .hook => .error .unknownArgument
  | .check =>
    let given := t.has .file || (t.pending.map Prod.fst) == some .file
    if given then .error .unknownArgument
    else do
      let t ← t.settle
      return { t with pending := some (.file, some a) }

/-- The arguments of a level up to the name of a command, with what follows it. After two dashes
nothing is an option. -/
def scan (l : Level) : Bool → Taken → List String →
    Except UsageError (Taken × Option (Command × List String))
  | _, t, [] => .ok (t, none)
  | true, t, a :: args => do
    let t ← takePlain l true t a
    scan l true t args
  | false, t, a :: args =>
    let command := if l = .outer && t.expecting?.isNone then commandOf? a else none
    match command with
    | some c => .ok (t, some (c, args))
    | none =>
      match a.toList with
      | ['-', '-'] => scan l true t args
      | '-' :: '-' :: cs => do
        let t ← takeLong l t cs
        scan l false t args
      | '-' :: c :: cs => do
        let t ← takeShort l t (c :: cs)
        scan l false t args
      | _ =>
        match t.expecting? with
        | some topic => scan l false { t with pending := some (topic, some a) } args
        | none => do
          let t ← takePlain l false t a
          scan l false t args

def configVariable : String := "QUALITY_HOOK_CONFIG"

def Taken.complete (t : Taken) (fromEnvironment : Option String) : Except UsageError Taken := do
  let t ← t.settle
  match t.value? .config, fromEnvironment with
  | none, some v => checkValue .config v
  | _, _ => .ok ()
  return t

def helpWith : List String → UsageError
  | [] => .help
  | [name] => if (commandOf? name).isSome then .help else .unknownCommand
  | _ => .unknownCommand

def hookTask (t : Taken) : Except UsageError Task :=
  .ok (.hook ((t.value? .payloadTimeout).bind milliseconds?))

def checkTask (t : Taken) : Except UsageError Task :=
  match t.value? .file with
  | some file => .ok (.check file (t.has .noFix))
  | none => .error .missingFile

namespace Request

/-- The request of two levels. The inner one is completed first. The option of the inner level
comes before that of the outer one, and that before the variable. -/
def ofLevels (fromEnvironment : Option String) (outer : Taken) (l : Level)
    (task : Taken → Except UsageError Task) (args : List String) : Except UsageError Request := do
  let (inner, _) ← scan l false .empty args
  let inner ← inner.complete fromEnvironment
  let task ← task inner
  let outer ← outer.complete fromEnvironment
  return ⟨task, inner.has .json || outer.has .json,
    ((inner.value? .config).or (outer.value? .config)).or fromEnvironment⟩

def ofArguments (environment : List (String × String)) (args : List String) :
    Except UsageError Request := do
  let fromEnvironment := environment.lookup configVariable
  let (outer, rest) ← scan .outer false .empty args
  match rest with
  | some (.help, names) => .error (helpWith names)
  | some (.hook, args) => ofLevels fromEnvironment outer .hook hookTask args
  | some (.check, args) => ofLevels fromEnvironment outer .check checkTask args
  | none =>
    let outer ← outer.complete fromEnvironment
    if outer.flags.isEmpty && outer.values.isEmpty && fromEnvironment.isNone then
      .error .nothingAsked
    else .error .missingCommand

end Request
end QualityGate.Cli
