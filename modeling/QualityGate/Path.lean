
namespace QualityGate.Path

def segments : List Char → List (List Char)
  | [] => [[]]
  | c :: cs =>
    if c = '/' then [] :: segments cs
    else match segments cs with
      | [] => [[c]]
      | s :: ss => (c :: s) :: ss

def components (path : List Char) : List (List Char) :=
  (segments path).filter fun s => s ≠ [] ∧ s ≠ ['.']

def fileNameChars? (path : List Char) : Option (List Char) :=
  (components path).getLast?.filter (· ≠ ['.', '.'])

def fileName? (path : String) : Option String :=
  (fileNameChars? path.toList).map String.ofList

def extensionOfName? (name : List Char) : Option (List Char) :=
  let after := (name.reverse.takeWhile (· ≠ '.')).reverse
  if after.length + 1 < name.length then some after else none

def extension? (path : String) : Option String :=
  ((fileNameChars? path.toList).bind extensionOfName?).map String.ofList

end QualityGate.Path
