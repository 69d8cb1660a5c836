import QualityGate.FileTree
import QualityGate.Settings.Environment
import QualityGate.Settings.Validation

namespace QualityGate

/-- What went wrong with a value: the mismatch, the way to the value, and where it comes from. -/
structure ValueFlaw where
  cause : Wire.Mismatch
  path : List String
  origin : Origin
deriving DecidableEq, Repr

inductive LoadError
  /-- A file is no YAML text or holds no mapping. -/
  | unreadable (context : String)
  | value (context : String) (flaw : ValueFlaw)
  | invalid (flaw : SettingsFlaw)
deriving DecidableEq, Repr

def Wire.Found.inSettings : Wire.Found → String
  | .null => "unit"
  | .flag b => if b then "bool true" else "bool false"
  | .integer z =>
    (if z < 0 then "signed int " else "unsigned int ") ++ Wire.ticked (Text.Digits.signed z)
  | .minusZero => "signed int " ++ Wire.ticked "0"
  | .wide z => "integer " ++ Wire.ticked (Text.Digits.signed z) ++ " as " ++ Wire.wideKind z
  | .real x => "float " ++ Wire.ticked (Number.Notation.plain x)
  | .char c => "char " ++ Text.Quoted.char c
  | .text s => "string " ++ Text.Quoted.text s
  | .list => "sequence"
  | .map => "map"

def Wire.Wording.settings : Wire.Wording where
  found := Wire.Found.inSettings
  typeLead := "invalid type: found "
  valueLead := "invalid value "

def Origin.key (path : List String) : Origin → String
  | .environment => ".".intercalate (path.map fun s => String.ofList (s.toList.map Char.toUpper))
  | .defaults | .file _ => ".".intercalate ("default" :: path)

def Origin.description : Origin → String
  | .defaults => "default settings"
  | .file path => path ++ " YAML file"
  | .environment => Wire.ticked Environment.start ++ " environment variable(s)"

def ValueFlaw.message (f : ValueFlaw) : String :=
  f.cause.message .settings ++
    (if f.path.isEmpty then "" else " for key " ++ Text.Quoted.text (f.origin.key f.path)) ++
    " in " ++ f.origin.description

def LoadError.chain : LoadError → List String
  | unreadable context => [context]
  | value context flaw => [context, flaw.message]
  | invalid flaw => [flaw.message]

def searchPath (cwd : Place) : List Place :=
  cwd :: (FileTree.ancestors cwd).reverse

def relativeSteps : List String → List String → List String
  | a :: path, b :: base =>
    if a = b then relativeSteps path base else upAndDown (a :: path) (b :: base)
  | path, base => upAndDown path base
where
  upAndDown (path base : List String) : List String :=
    base.map (fun _ => "..") ++ path

/-- The path that messages give for a file which was found in a directory: the way from the
working directory, if it has fewer steps than the path from the root. -/
def shownPath (cwd found : Place) (path : String) : String :=
  let absolute :=
    if path.toList.head? = some '/' then path
    else Place.path (found ++ [path])
  let steps := (Path.components absolute.toList).map String.ofList
  let relative := relativeSteps steps cwd
  if relative.length < steps.length + 1 then "/".intercalate relative else absolute

/-- The text of the file that a path leads to from the working directory or, failing that, from
one of its ancestors, with the path that messages give for it. -/
def findFile? (tree : FileTree) (cwd : Place) (path : String) : Option (String × List UInt8) :=
  let places := if path.toList.head? = some '/' then [cwd] else searchPath cwd
  places.findSome? fun dir =>
    match tree.fileAt? dir path with
    | some p => (tree.bytes? p).map (shownPath cwd dir path, ·)
    | none => none

def fileLayer? (tree : FileTree) (cwd : Place) (path : String) : Option Setting :=
  match findFile? tree cwd path with
  | none => some (.nothing (.file path))
  | some (shown, bytes) => (Text.Utf8.decode? bytes).bind (Setting.ofYaml? (.file shown))

namespace Settings

def configFile : String := ".quality-hook/config.yaml"

def localFile : String := ".quality-hook/local.yaml"

def defaultLayer : Setting :=
  .ofJson .defaults (form.encode default)

def files (file : Option String) : List String :=
  match file with
  | some path => [path]
  | none => [configFile, localFile]

def loadContext (file : Option String) : String :=
  match file with
  | some path => "Failed to load config from " ++ path
  | none => "Failed to extract configuration from figment"

def ofSetting (context : String) (s : Setting) : Except LoadError Settings :=
  (form.decode s).mapError fun fault =>
    .value context ⟨fault.cause, fault.path, fault.value.origin⟩

def layers? (layers : List (Option Setting)) (environment : Setting) : Option Setting :=
  (layers.mapM id).map fun ls => (ls.foldl Setting.merge defaultLayer).merge environment

def load (tree : FileTree) (cwd : Place) (environment : List (String × String))
    (file : Option String) : Except LoadError Settings := do
  let context := loadContext file
  match layers? ((files file).map (fileLayer? tree cwd)) (Environment.layer environment) with
  | none => .error (.unreadable context)
  | some all =>
    let settings ← ofSetting context all
    (settings.validate).mapError .invalid
    return settings

end Settings
end QualityGate
