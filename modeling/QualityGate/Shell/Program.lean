import QualityGate.Error
import QualityGate.Shell.Utility

namespace QualityGate.Shell

inductive Program
  | shell
  | utility (run : Utility)

namespace Program

def named? (name : String) : Option Program :=
  if name = "sh" then some .shell else (Utility.named? name).map .utility

def directories : List String :=
  ["/bin/", "/usr/bin/"]

def pathOf (name : String) : String :=
  "/usr/bin/" ++ name

def nameIn? (path directory : String) : Option String :=
  if directory.toList.isPrefixOf path.toList then
    some (String.ofList (path.toList.drop directory.length))
  else none

/-- The program that a word stands for: a name, or a path if there is a slash in it. No other file
can be run. -/
def find (tree : FileTree) (cwd : Place) (word : String) : Except SpawnError Program :=
  if word.toList.contains '/' then
    match directories.findSome? fun d => (nameIn? word d).bind named? with
    | some p => .ok p
    | none =>
      match tree.locate cwd word with
      | .error .missing => .error .notFound
      | .error .notDirectory => .error .notDirectory
      | .error .tooLong => .error .nameTooLong
      | .ok place =>
        match tree.find? place with
        | some _ => .error .permissionDenied
        | none => .error .notFound
  else
    match named? word with
    | some p => .ok p
    | none => .error (if FileTree.maxName < word.utf8ByteSize then .nameTooLong else .notFound)

end Program
end QualityGate.Shell
