import QualityGate.Diagnostic.Issue
import QualityGate.Text.Digits
import QualityGate.Text.Lines

namespace QualityGate

/-- The reason holds one issue a line. -/
structure BlockingMessage where
  reason : String
  context : Option String
deriving DecidableEq, Repr

namespace BlockingMessage

def issuesHeader : String := "❌ Quality issues found:"

def header : String := "🚫 BLOCKING: You must fix these issues before proceeding:"

def demand : String := "   ACTION REQUIRED: Fix this issue before continuing"

def closing : String := "❌ DO NOT PROCEED until all issues are resolved. Update your code now."

/-- A line of the reason that is numbered: it is not blank and does not hold the header. -/
def isIssueLine (line : List Char) : Bool :=
  !line.all Text.Blank.isBlank && !Text.Lines.hasPart issuesHeader.toList line

def issueLines (m : BlockingMessage) : List String :=
  ((Text.Lines.lines m.reason.toList).filter isIssueLine).map String.ofList

def shownContext (m : BlockingMessage) : Option String :=
  m.context.filter (· != m.reason)

def numbered : Nat → List String → List String
  | _, [] => []
  | n, line :: lines =>
    (Text.Digits.decimal n ++ ". QUALITY ISSUE: " ++ line) :: demand :: "" :: numbered (n + 1) lines

/-- The message in lines; a text of the given lines has a line feed between any two. -/
def renderedLines (m : BlockingMessage) : List String :=
  ["", header, ""] ++ numbered 1 m.issueLines ++
    (match m.shownContext with
      | some context => ["CONTEXT: " ++ context, ""]
      | none => []) ++
    [closing, ""]

def render (m : BlockingMessage) : String :=
  "\n".intercalate m.renderedLines

def issuesText (issues : List Issue) : String :=
  issuesHeader ++ "\n\n" ++ "\n".intercalate (issues.map Issue.displayText)

end BlockingMessage
end QualityGate
