import QualityGate.Diagnostic.Tool

namespace QualityGate

inductive SpawnError
  | notFound
  | permissionDenied
  | notDirectory
  | nameTooLong
  | argumentsTooLong
  | nulByte
  | other (text : String)
deriving DecidableEq, Repr

def SpawnError.message : SpawnError → String
  | notFound => "No such file or directory (os error 2)"
  | permissionDenied => "Permission denied (os error 13)"
  | notDirectory => "Not a directory (os error 20)"
  | nameTooLong => "File name too long (os error 36)"
  | argumentsTooLong => "Argument list too long (os error 7)"
  | nulByte => "nul byte found in provided data"
  | other text => text

inductive GateError
  | checkerFailed (file reason : String)
  | fixerFailed (file reason : String)
  | toolSpawn (tool : Tool) (cause : SpawnError)
  | invalidPolicy (conflicts : List String)
  | payload (flaw : String)
deriving DecidableEq, Repr

namespace GateError

def message : GateError → String
  | checkerFailed file reason => "Checker failed for " ++ file ++ ": " ++ reason
  | fixerFailed file reason => "Fixer failed for " ++ file ++ ": " ++ reason
  | toolSpawn tool cause => "Failed to spawn " ++ tool.key ++ ": " ++ cause.message
  | invalidPolicy conflicts =>
    "Invalid classification policy: rules listed as both fixable and unfixable: " ++
      ", ".intercalate conflicts
  | payload flaw => "Invalid payload: " ++ flaw

def chain : GateError → List String
  | toolSpawn tool cause => [(toolSpawn tool cause).message, cause.message]
  | e => [e.message]

end GateError
end QualityGate
