import QualityGate.Text.Blank
import QualityGate.Text.Lines

namespace QualityGate.Findings

open Text

def trimmedLines (text : String) : List (List Char) :=
  (Lines.lines text.toList).map Blank.trim

def outputLines (stdout stderr : String) : List (List Char) :=
  trimmedLines stdout ++ trimmedLines stderr

def strip? (start cs : List Char) : Option (List Char) :=
  if start.isPrefixOf cs then some (cs.drop start.length) else none

end QualityGate.Findings
